import IoGateway.Handshake

/-! # What each end of the handshake accepts

The two handshake programs against the bytes of an arbitrary peer: the server
accepts the response to its challenge and nothing else, the client's reading of
a confirmation depends on the size the server announces.
-/

namespace IoGateway

open SocketProgram

/-! ## What the server accepts -/

namespace GatewayServer

variable (hmac : Hmac) (key : Bytes) (nonce : Nonce) (packetId : UInt64)

theorem run_confirm (responseId : UInt64) (stream : Bytes) :
    (confirm responseId).run stream = ⟨true, connectedFrame responseId, stream⟩ := by
  simp [confirm, run, connectedFrame]

theorem run_deny (responseId : UInt64) (stream : Bytes) :
    (deny responseId).run stream = ⟨false, denyFrame responseId, stream⟩ := by
  simp [deny, run, denyFrame]

theorem run_authenticateClient (stream : Bytes) :
    (authenticateClient hmac key nonce packetId).run stream =
      { (receiveResponse hmac key nonce.bytes).run stream with
        written := challengeFrame nonce packetId ++
          ((receiveResponse hmac key nonce.bytes).run stream).written } := by
  simp [authenticateClient, run, challengeFrame, nonceSize]

theorem run_receiveResponse {stream response rest : Bytes} {packet : PacketGW}
    (starts : StartsWithFrame stream packet response rest)
    (typed : packet.packetType = .gwAuthResponse) :
    (receiveResponse hmac key nonce.bytes).run stream =
      if verifyResponse hmac key nonce.bytes response then
        ⟨true, connectedFrame packet.packetId, rest⟩
      else
        ⟨false, denyFrame packet.packetId, rest⟩ := by
  rcases starts with ⟨header, headerSize, decoded, sized, rfl⟩
  unfold receiveResponse
  rw [List.append_assoc, run_readExact_append headerSize]
  simp only [Option.bind_some, decoded, typed, ne_eq, not_true, if_false]
  rw [run_readExact_append sized]
  cases verified : verifyResponse hmac key nonce.bytes response with
  | true => simpa [verified] using run_confirm packet.packetId rest
  | false => simpa [verified] using run_deny packet.packetId rest

theorem run_receiveResponse_incomplete {stream : Bytes}
    (incomplete : ∀ packet response rest, StartsWithFrame stream packet response rest →
      packet.packetType ≠ .gwAuthResponse) :
    ∃ rest, (receiveResponse hmac key nonce.bytes).run stream = ⟨false, [], rest⟩ := by
  unfold receiveResponse
  by_cases short : stream.length < packetHeaderSize
  · exact ⟨[], by rw [run_readExact_short short]; rfl⟩
  · rcases exists_header (Nat.le_of_not_lt short) with
      ⟨header, packet, later, headerSize, decoded, rfl⟩
    rw [run_readExact_append headerSize]
    simp only [Option.bind_some, decoded]
    by_cases typed : packet.packetType = .gwAuthResponse
    · have cut : later.length < packet.dataSize.toNat := by
        by_contra complete
        refine incomplete packet (later.take packet.dataSize.toNat)
          (later.drop packet.dataSize.toNat) ⟨header, headerSize, decoded, ?_, ?_⟩ typed
        · exact List.length_take_of_le (Nat.le_of_not_lt complete)
        · rw [List.append_assoc, List.take_append_drop]
      simp only [typed, ne_eq, not_true, if_false]
      exact ⟨[], by rw [run_readExact_short cut]; rfl⟩
    · exact ⟨later, by simp [typed]⟩

theorem connectedFrame_ne_denyFrame (left right : UInt64) :
    connectedFrame left ≠ denyFrame right := by
  intro equal
  have codes := congrArg List.head? equal
  simp [connectedFrame, denyFrame, PacketGW.toBytes, PacketGW.new, PacketType.code] at codes

theorem denyFrame_injective {left right : UInt64} (equal : denyFrame left = denyFrame right) :
    left = right := by
  have decoded := congrArg PacketGW.fromBytes equal
  simp only [denyFrame, PacketGW.fromBytes_toBytes_append, Option.some.injEq] at decoded
  exact congrArg PacketGW.packetId decoded

theorem run_authenticateClient_valid {stream rest : Bytes} {packet : PacketGW}
    (starts : StartsWithFrame stream packet (hmac.compute key nonce.bytes) rest)
    (typed : packet.packetType = .gwAuthResponse) :
    (authenticateClient hmac key nonce packetId).run stream =
        ⟨true, challengeFrame nonce packetId ++ connectedFrame packet.packetId, rest⟩ ∧
      packet.dataSize = 32 := by
  have verified : verifyResponse hmac key nonce.bytes (hmac.compute key nonce.bytes) = true :=
    (verifyResponse_iff hmac key nonce.bytes _).mpr rfl
  rw [run_authenticateClient, run_receiveResponse hmac key nonce starts typed, verified]
  refine ⟨rfl, ?_⟩
  rcases starts with ⟨_, _, _, sized, _⟩
  apply UInt16.toNat_inj.mp
  rw [← sized, hmac.length_compute]
  rfl

theorem run_authenticateClient_invalid {stream response rest : Bytes} {packet : PacketGW}
    (starts : StartsWithFrame stream packet response rest)
    (typed : packet.packetType = .gwAuthResponse)
    (different : response ≠ hmac.compute key nonce.bytes) :
    (authenticateClient hmac key nonce packetId).run stream =
      ⟨false, challengeFrame nonce packetId ++ denyFrame packet.packetId, rest⟩ := by
  have rejected : verifyResponse hmac key nonce.bytes response = false := by
    rw [Bool.eq_false_iff, ne_eq, verifyResponse_iff]
    exact different
  rw [run_authenticateClient, run_receiveResponse hmac key nonce starts typed, rejected]
  rfl

theorem run_authenticateClient_incomplete {stream : Bytes}
    (incomplete : ∀ packet response rest, StartsWithFrame stream packet response rest →
      packet.packetType ≠ .gwAuthResponse) :
    ∃ rest, (authenticateClient hmac key nonce packetId).run stream =
      ⟨false, challengeFrame nonce packetId, rest⟩ := by
  rcases run_receiveResponse_incomplete hmac key nonce incomplete with ⟨rest, silent⟩
  exact ⟨rest, by rw [run_authenticateClient, silent, List.append_nil]⟩

/-- The server accepts exactly the streams that begin with the response to its
challenge, consumes no more than that, and denies every other complete response. -/
theorem authenticateClient_verdict (stream : Bytes) :
    let outcome := (authenticateClient hmac key nonce packetId).run stream
    (outcome.value = true ↔ ∃ packet rest,
      StartsWithFrame stream packet (hmac.compute key nonce.bytes) rest ∧
        packet.packetType = .gwAuthResponse ∧ packet.dataSize = 32) ∧
    (outcome.value = true → ∃ front, front.length = 48 ∧ stream = front ++ outcome.rest) ∧
    (∀ responseId, outcome.written = challengeFrame nonce packetId ++ denyFrame responseId ↔
      ∃ packet response rest, StartsWithFrame stream packet response rest ∧
        packet.packetType = .gwAuthResponse ∧ packet.packetId = responseId ∧
        ¬(packet.dataSize = 32 ∧ response = hmac.compute key nonce.bytes)) ∧
    (outcome.value = false → outcome.written = challengeFrame nonce packetId ∨
      ∃ responseId, outcome.written = challengeFrame nonce packetId ++ denyFrame responseId) := by
  by_cases responded : ∃ packet response rest, StartsWithFrame stream packet response rest ∧
      packet.packetType = .gwAuthResponse
  · rcases responded with ⟨packet, response, rest, starts, typed⟩
    by_cases valid : response = hmac.compute key nonce.bytes
    · subst valid
      rcases run_authenticateClient_valid hmac key nonce packetId starts typed with
        ⟨accepted, size⟩
      rw [accepted]
      refine ⟨iff_of_true rfl ⟨packet, rest, starts, typed, size⟩, ?_, ?_, ?_⟩
      · intro _
        rcases starts with ⟨header, headerSize, _, _, split⟩
        refine ⟨header ++ hmac.compute key nonce.bytes, ?_, split⟩
        rw [List.length_append, headerSize, hmac.length_compute]
        rfl
      · intro responseId
        refine iff_of_false ?_ ?_
        · intro denied
          exact connectedFrame_ne_denyFrame _ _ (List.append_cancel_left denied)
        · intro ⟨other, otherResponse, otherRest, otherStarts, _, _, invalid⟩
          rcases starts.unique otherStarts with ⟨rfl, rfl, rfl⟩
          exact invalid ⟨size, rfl⟩
      · intro rejected
        cases rejected
    · rw [run_authenticateClient_invalid hmac key nonce packetId starts typed valid]
      refine ⟨iff_of_false Bool.false_ne_true ?_, ?_, ?_, fun _ => .inr ⟨_, rfl⟩⟩
      · intro ⟨other, otherRest, otherStarts, _, _⟩
        exact valid (starts.unique otherStarts).2.1
      · intro accepted
        cases accepted
      · intro responseId
        constructor
        · intro denied
          exact ⟨packet, response, rest, starts, typed,
            denyFrame_injective (List.append_cancel_left denied), fun both => valid both.2⟩
        · intro ⟨other, otherResponse, otherRest, otherStarts, _, answered, _⟩
          rcases starts.unique otherStarts with ⟨rfl, rfl, rfl⟩
          rw [answered]
  · have incomplete : ∀ packet response rest, StartsWithFrame stream packet response rest →
        packet.packetType ≠ .gwAuthResponse :=
      fun packet response rest starts typed => responded ⟨packet, response, rest, starts, typed⟩
    rcases run_authenticateClient_incomplete hmac key nonce packetId incomplete with
      ⟨rest, silent⟩
    rw [silent]
    refine ⟨iff_of_false Bool.false_ne_true ?_, ?_, ?_, fun _ => .inl rfl⟩
    · intro ⟨packet, rest, starts, typed, _⟩
      exact incomplete _ _ _ starts typed
    · intro accepted
      cases accepted
    · intro responseId
      refine iff_of_false ?_ ?_
      · intro denied
        have length := congrArg List.length denied
        simp [denyFrame] at length
      · intro ⟨packet, response, rest, starts, typed, _⟩
        exact incomplete _ _ _ starts typed

end GatewayServer

/-! ## What the client accepts -/

namespace GatewayClient

variable (hmac : Hmac) (key : Bytes) (packetId : UInt64)

/-- What the client takes for a confirmation, up to where it stops reading: a
short announcement is not read at all, of a long one only the version is. -/
def Confirms (stream : Bytes) (connected : PacketGW) (rest : Bytes) : Prop :=
  ∃ header later : Bytes, header.length = packetHeaderSize ∧
    PacketGW.fromBytes header = some connected ∧ connected.packetType = .gwConnected ∧
    stream = header ++ later ∧
    (connected.dataSize.toNat < 12 ∧ later = rest ∨
      12 ≤ connected.dataSize.toNat ∧ ∃ version : Bytes, version.length = 12 ∧
        LittleEndian.decode (version.take 4) = protocolVersionMajor.toNat ∧
        later = version ++ rest)

theorem run_awaitVerdict_confirms {stream rest : Bytes} {connected : PacketGW}
    (confirms : Confirms stream connected rest) :
    awaitVerdict.run stream = ⟨true, [], rest⟩ := by
  rcases confirms with ⟨header, later, headerSize, decoded, typed, rfl, ending⟩
  unfold awaitVerdict
  rw [run_readExact_append headerSize]
  simp only [Option.bind_some, decoded, typed]
  rcases ending with ⟨short, rfl⟩ | ⟨long, version, versionSize, major, rfl⟩
  · rw [if_neg (Nat.not_le.mpr short)]
    rfl
  · rw [if_pos long, run_readExact_append versionSize]
    simp [major]

theorem confirms_of_run_awaitVerdict {stream : Bytes}
    (accepted : (awaitVerdict.run stream).value = true) :
    ∃ connected, Confirms stream connected (awaitVerdict.run stream).rest := by
  by_cases short : stream.length < packetHeaderSize
  · unfold awaitVerdict at accepted
    rw [run_readExact_short short] at accepted
    cases accepted
  · rcases exists_header (Nat.le_of_not_lt short) with
      ⟨header, packet, later, headerSize, decoded, rfl⟩
    unfold awaitVerdict at accepted ⊢
    rw [run_readExact_append headerSize] at accepted ⊢
    simp only [Option.bind_some, decoded] at accepted ⊢
    cases typed : packet.packetType with
    | gwConnected =>
        simp only [typed] at accepted ⊢
        by_cases long : packet.dataSize.toNat ≥ 12
        · rw [if_pos long] at accepted ⊢
          by_cases cut : later.length < 12
          · rw [run_readExact_short cut] at accepted
            cases accepted
          · have size := List.length_take_of_le (Nat.le_of_not_lt cut)
            have split := (List.take_append_drop 12 later).symm
            generalize later.take 12 = version at size split
            generalize later.drop 12 = tail at split
            subst split
            rw [run_readExact_append size] at accepted ⊢
            exact ⟨packet, header, _, headerSize, decoded, typed, rfl,
              .inr ⟨long, version, size, of_decide_eq_true accepted, rfl⟩⟩
        · rw [if_neg long]
          exact ⟨packet, header, _, headerSize, decoded, typed, rfl,
            .inl ⟨Nat.not_le.mp long, rfl⟩⟩
    | gwDeny =>
        simp only [typed] at accepted
        split at accepted
        · unfold run at accepted
          split at accepted <;> cases accepted
        · cases accepted
    | _ =>
        simp only [typed] at accepted
        cases accepted

theorem run_gwAuthenticate {stream nonce rest : Bytes} {challenge : PacketGW}
    (starts : StartsWithFrame stream challenge nonce rest)
    (typed : challenge.packetType = .gwAuthChallenge) (size : challenge.dataSize = 32) :
    (gwAuthenticate hmac key packetId).run stream =
      { awaitVerdict.run rest with
        written := responseFrame (computeResponse hmac key nonce) packetId ++
          (awaitVerdict.run rest).written } := by
  rcases starts with ⟨header, headerSize, decoded, sized, rfl⟩
  have nonceSized : challenge.dataSize.toNat = nonceSize := by rw [size]; rfl
  unfold gwAuthenticate
  rw [List.append_assoc, run_readExact_append headerSize]
  simp only [Option.bind_some, decoded, typed, nonceSized, ne_eq, not_true, if_false]
  rw [run_readExact_append (nonceSized ▸ sized)]
  simp [sendResponse, run, responseFrame, responseSize]

/-- The client accepts nothing that does not begin with a challenge. -/
theorem exists_challenge_of_run {stream : Bytes}
    (accepted : ((gwAuthenticate hmac key packetId).run stream).value = true) :
    ∃ challenge nonce rest, StartsWithFrame stream challenge nonce rest ∧
      challenge.packetType = .gwAuthChallenge ∧ challenge.dataSize = 32 := by
  by_cases short : stream.length < packetHeaderSize
  · unfold gwAuthenticate at accepted
    rw [run_readExact_short short] at accepted
    cases accepted
  · rcases exists_header (Nat.le_of_not_lt short) with
      ⟨header, packet, later, headerSize, decoded, rfl⟩
    unfold gwAuthenticate at accepted
    rw [run_readExact_append headerSize] at accepted
    simp only [Option.bind_some, decoded] at accepted
    by_cases typed : packet.packetType = .gwAuthChallenge
    · by_cases nonceSized : packet.dataSize.toNat = nonceSize
      · by_cases cut : later.length < packet.dataSize.toNat
        · simp only [typed, nonceSized, ne_eq, not_true, if_false] at accepted
          rw [run_readExact_short (nonceSized ▸ cut)] at accepted
          cases accepted
        · refine ⟨packet, later.take packet.dataSize.toNat, later.drop packet.dataSize.toNat,
            ⟨header, headerSize, decoded, ?_, ?_⟩, typed, UInt16.toNat_inj.mp nonceSized⟩
          · exact List.length_take_of_le (Nat.le_of_not_lt cut)
          · rw [List.append_assoc, List.take_append_drop]
      · simp [typed, nonceSized] at accepted
    · simp [typed] at accepted

/-- An acceptance that the law allows: the version was announced with the right
major number and the whole frame was read. -/
def VersionedAcceptance (stream : Bytes) (outcome : Outcome Bool) : Prop :=
  outcome.value = true →
    ∃ challenge nonce middle connected payload,
      StartsWithFrame stream challenge nonce middle ∧
      StartsWithFrame middle connected payload outcome.rest ∧
      connected.packetType = .gwConnected ∧ 12 ≤ payload.length ∧
      LittleEndian.decode (payload.take 4) = protocolVersionMajor.toNat

/-- A challenge and then a confirmation that announces anything but the 12
bytes of a version. -/
def Missized (stream : Bytes) : Prop :=
  ∃ challenge nonce middle connected rest,
    StartsWithFrame stream challenge nonce middle ∧
    challenge.packetType = .gwAuthChallenge ∧ challenge.dataSize = 32 ∧
    Confirms middle connected rest ∧ connected.dataSize ≠ 12

theorem Missized.not_versioned {stream : Bytes} (missized : Missized stream) :
    ¬VersionedAcceptance stream ((gwAuthenticate hmac key packetId).run stream) := by
  intro versioned
  rcases missized with ⟨challenge, nonce, middle, connected, rest, starts, typed, size,
    confirms, missized⟩
  have ran := run_gwAuthenticate hmac key packetId starts typed size
  rw [run_awaitVerdict_confirms confirms] at ran
  rw [ran] at versioned
  rcases versioned rfl with ⟨_, _, middle', connected', payload, starts', frame, _, long, _⟩
  rcases starts.unique starts' with ⟨rfl, rfl, rfl⟩
  rcases confirms with ⟨header, later, headerSize, decoded, _, rfl, ending⟩
  rcases frame with ⟨header', headerSize', decoded', sized, equal⟩
  rw [List.append_assoc] at equal
  rcases List.append_inj equal (headerSize.trans headerSize'.symm) with ⟨rfl, rfl⟩
  rw [decoded] at decoded'
  cases decoded'
  rcases ending with ⟨short, _⟩ | ⟨_, version, versionSize, _, equal⟩
  · omega
  · have same := List.append_cancel_right equal
    apply missized
    apply UInt16.toNat_inj.mp
    rw [← sized, same, versionSize]
    rfl

theorem versioned_of_not_missized {stream : Bytes} (sized : ¬Missized stream) :
    VersionedAcceptance stream ((gwAuthenticate hmac key packetId).run stream) := by
  intro accepted
  rcases exists_challenge_of_run hmac key packetId accepted with
    ⟨challenge, nonce, middle, starts, typed, size⟩
  rw [run_gwAuthenticate hmac key packetId starts typed size] at accepted ⊢
  rcases confirms_of_run_awaitVerdict accepted with ⟨connected, confirms⟩
  have exactly : connected.dataSize = 12 := by
    by_contra different
    exact sized ⟨_, _, _, connected, _, starts, typed, size, confirms, different⟩
  rcases confirms with ⟨header, later, headerSize, decoded, confirmed, rfl, ending⟩
  rcases ending with ⟨short, _⟩ | ⟨_, version, versionSize, major, equal⟩
  · rw [exactly] at short
    exact absurd short (by decide)
  · refine ⟨_, _, _, connected, version, starts, ⟨header, headerSize, decoded, ?_, ?_⟩,
      confirmed, Nat.le_of_eq versionSize.symm, major⟩
    · rw [versionSize, exactly]
      rfl
    · rw [List.append_assoc, ← equal]

/-- The client reads the version of every confirmation to its end exactly where
the announced size is that of a version. -/
theorem gwAuthenticate_versioned_iff (stream : Bytes) :
    VersionedAcceptance stream ((gwAuthenticate hmac key packetId).run stream) ↔
      ¬Missized stream :=
  ⟨fun versioned missized => missized.not_versioned hmac key packetId versioned,
    versioned_of_not_missized hmac key packetId⟩

/-- A confirmation without a version, and one with four bytes after it that the
client leaves on the stream. -/
theorem gwAuthenticate_misreads_confirmation :
    let challenge := challengeFrame zeroNonce 1
    let bare := challenge ++ (PacketGW.new .gwConnected 2 0 0).toBytes
    let extended := challenge ++
      ((PacketGW.new .gwConnected 2 0 16).toBytes ++ (versionData ++ [1, 2, 3, 4]))
    ¬VersionedAcceptance bare ((gwAuthenticate .truncated [7] 1).run bare) ∧
      ¬VersionedAcceptance extended ((gwAuthenticate .truncated [7] 1).run extended) := by
  intro challenge bare extended
  have starts : ∀ rest, StartsWithFrame (challenge ++ rest) (PacketGW.new .gwAuthChallenge 1 0 32)
      zeroNonce.bytes rest :=
    fun rest => ⟨_, PacketGW.length_toBytes _, rfl, rfl, rfl⟩
  constructor
  · refine Missized.not_versioned _ _ _ ⟨_, _, _, PacketGW.new .gwConnected 2 0 0, [], starts _,
      rfl, rfl, ⟨_, _, PacketGW.length_toBytes _, rfl, rfl, (List.append_nil _).symm, ?_⟩,
      by decide⟩
    exact .inl ⟨by decide, rfl⟩
  · refine Missized.not_versioned _ _ _ ⟨_, _, _, PacketGW.new .gwConnected 2 0 16, [1, 2, 3, 4],
      starts _, rfl, rfl, ⟨_, _, PacketGW.length_toBytes _, rfl, rfl, rfl, ?_⟩, by decide⟩
    exact .inr ⟨by decide, versionData, rfl, rfl, rfl⟩

end GatewayClient

end IoGateway

import IoGateway.ConcurrentSenders

/-! # The frames of one link

What a sequence of frames says about one link: whether a control frame of it is
among them, and the application data it carries. A link is introduced by one frame,
has no data before it and, on the way to the client, none after its `Close`.
-/

namespace IoGateway

namespace Frame

def Is (type : PacketType) (linkId : UInt16) (frame : Frame) : Prop :=
  frame.packetType = type ∧ frame.linkId = linkId

/-- The application data of the link in a frame. -/
def payloadOf (linkId : UInt16) (frame : Frame) : Bytes :=
  if frame.packetType = .regular ∧ frame.linkId = linkId then frame.payload.getD [] else []

theorem payloadOf_of_none {linkId : UInt16} {frame : Frame} (bare : frame.payload = none) :
    frame.payloadOf linkId = [] := by
  simp [payloadOf, bare]

end Frame

def Has (type : PacketType) (linkId : UInt16) (frames : List Frame) : Prop :=
  ∃ frame ∈ frames, Frame.Is type linkId frame

def types (linkId : UInt16) (frames : List Frame) : List PacketType :=
  (frames.filter fun frame => frame.linkId = linkId).map Frame.packetType

def payloads (linkId : UInt16) (frames : List Frame) : Bytes :=
  frames.flatMap (Frame.payloadOf linkId)

variable {type opening : PacketType} {linkId : UInt16} {frame : Frame}
  {frames earlier more : List Frame}

theorem not_has_nil : ¬ Has type linkId [] := by
  intro has
  rcases has with ⟨frame, member, _⟩
  cases member

theorem Has.mono (has : Has type linkId earlier) (grown : earlier <+: frames) :
    Has type linkId frames := by
  rcases has with ⟨frame, member, is⟩
  exact ⟨frame, grown.subset member, is⟩

theorem has_concat : Has type linkId (frames ++ [frame]) ↔
    Has type linkId frames ∨ Frame.Is type linkId frame := by
  simp [Has, or_and_right, exists_or]

theorem has_iff : Has type linkId frames ↔ type ∈ types linkId frames := by
  simp only [Has, Frame.Is, types, List.mem_map, List.mem_filter, decide_eq_true_eq]
  constructor
  · intro has
    rcases has with ⟨frame, member, equal, id⟩
    exact ⟨frame, ⟨member, id⟩, equal⟩
  · intro spoken
    rcases spoken with ⟨frame, ⟨member, id⟩, equal⟩
    exact ⟨frame, member, equal, id⟩

theorem types_concat_own (own : frame.linkId = linkId) :
    types linkId (frames ++ [frame]) = types linkId frames ++ [frame.packetType] := by
  simp [types, own]

theorem types_concat_other (other : frame.linkId ≠ linkId) :
    types linkId (frames ++ [frame]) = types linkId frames := by
  simp [types, other]

theorem types_eq_nil_iff : types linkId frames = [] ↔ ∀ frame ∈ frames, frame.linkId ≠ linkId := by
  simp [types, List.filter_eq_nil_iff]

theorem types_eq_nil_of_front (grown : earlier <+: frames) (silent : types linkId frames = []) :
    types linkId earlier = [] := by
  rw [types_eq_nil_iff] at silent ⊢
  exact fun frame member => silent frame (grown.subset member)

theorem payloads_of_types_eq_nil (silent : types linkId frames = []) :
    payloads linkId frames = [] := by
  rw [types_eq_nil_iff] at silent
  rw [payloads, List.flatMap_eq_nil_iff]
  intro frame member
  simp [Frame.payloadOf, silent frame member]

@[simp] theorem payloads_nil : payloads linkId [] = [] := rfl

@[simp] theorem payloads_append :
    payloads linkId (frames ++ more) = payloads linkId frames ++ payloads linkId more := by
  simp [payloads]

theorem payloads_concat : payloads linkId (frames ++ [frame]) =
    payloads linkId frames ++ frame.payloadOf linkId := by
  simp [payloads]

theorem payloads_front (grown : earlier <+: frames) :
    payloads linkId earlier <+: payloads linkId frames := by
  rcases grown with ⟨later, rfl⟩
  rw [payloads_append]
  exact List.prefix_append _ _

/-! ## Introduced links -/

/-- The link is opened by at most one frame of the type, and its data come later. -/
structure Introduced (opening : PacketType) (linkId : UInt16) (frames : List Frame) : Prop where
  once : ∀ earlier frame, earlier ++ [frame] <+: frames → frame.Is opening linkId →
    ¬ Has opening linkId earlier
  first : ∀ earlier, earlier <+: frames → ¬ Has opening linkId earlier →
    payloads linkId earlier = []

theorem introduced_nil : Introduced opening linkId [] where
  once := by
    intro earlier frame grown
    simp at grown
  first := by
    intro earlier grown _
    rw [List.prefix_nil.mp grown, payloads_nil]

theorem Introduced.shorten (introduced : Introduced opening linkId frames)
    (grown : earlier <+: frames) : Introduced opening linkId earlier where
  once := fun before frame shorter => introduced.once before frame (shorter.trans grown)
  first := fun before shorter => introduced.first before (shorter.trans grown)

theorem Introduced.concat (introduced : Introduced opening linkId frames)
    (fresh : frame.Is opening linkId → ¬ Has opening linkId frames)
    (opened : frame.payloadOf linkId ≠ [] → Has opening linkId frames) :
    Introduced opening linkId (frames ++ [frame]) where
  once := by
    intro earlier other grown is
    rcases List.prefix_concat_iff.mp grown with equal | shorter
    · rcases List.append_inj' equal rfl with ⟨rfl, same⟩
      cases same
      exact fresh is
    · exact introduced.once earlier other shorter is
  first := by
    intro earlier grown unopened
    rcases List.prefix_concat_iff.mp grown with rfl | shorter
    · rw [has_concat, not_or] at unopened
      rw [payloads_concat, introduced.first frames (List.prefix_refl _) unopened.1,
        List.nil_append]
      exact not_imp_comm.mp opened unopened.1
    · exact introduced.first earlier shorter unopened

/-- At the frame that opens the link there are no data of it yet. -/
theorem Introduced.payloads_of_opening (introduced : Introduced opening linkId (frames ++ [frame]))
    (is : frame.Is opening linkId) (bare : opening ≠ .regular) :
    payloads linkId (frames ++ [frame]) = [] := by
  have unopened := introduced.once frames frame (List.prefix_refl _) is
  have silent : frame.payloadOf linkId = [] := by
    simp [Frame.payloadOf, is.1, bare]
  rw [payloads_concat, introduced.first frames (List.prefix_append _ _) unopened, silent]
  rfl

/-! ## Concluded links -/

/-- After a `Close` of the link there are no further data of it. -/
def Concluded (linkId : UInt16) (frames : List Frame) : Prop :=
  ∀ earlier, earlier <+: frames → Has .close linkId earlier →
    payloads linkId earlier = payloads linkId frames

theorem concluded_nil : Concluded linkId [] := by
  intro earlier grown has
  rw [List.prefix_nil.mp grown] at has
  exact absurd has not_has_nil

theorem Concluded.concat (concluded : Concluded linkId frames)
    (open_ : frame.payloadOf linkId ≠ [] → ¬ Has .close linkId frames) :
    Concluded linkId (frames ++ [frame]) := by
  intro earlier grown has
  rcases List.prefix_concat_iff.mp grown with rfl | shorter
  · rfl
  · have silent : frame.payloadOf linkId = [] := by
      by_contra carries
      exact open_ carries (has.mono shorter)
    rw [payloads_concat, silent, List.append_nil]
    exact concluded earlier shorter has

end IoGateway

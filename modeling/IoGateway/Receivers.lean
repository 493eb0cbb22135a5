import IoGateway.Conversation
import IoGateway.Link

/-! # The receiving side of a link

What has been written to an application, against the data received for its link. The
dispatch holds the data of one frame at a time.
-/

namespace IoGateway

/-- An application has been written a front of the data received for its link. While the
link is active and no write has failed it lacks only the data that are held. -/
structure Receives (linkId : UInt16) (frames : List Frame) (half : WriteHalf) (active : Prop)
    (held : Bytes) : Prop where
  part : half.written <+: payloads linkId frames
  whole : active → half.failed = false → half.written ++ held = payloads linkId frames

namespace Receives

variable {linkId : UInt16} {frames : List Frame} {frame : Frame} {half after : WriteHalf}
  {active still : Prop} {held payload : Bytes}

theorem fresh (unwritten : half.written = []) (inactive : ¬ active) :
    Receives linkId frames half active held where
  part := unwritten ▸ List.nil_prefix
  whole := fun activated => absurd activated inactive

theorem quiet (receives : Receives linkId frames half active held)
    (written : after.written = half.written) (failed : after.failed = half.failed)
    {holds : Bytes} (unchanged : still → active ∧ holds = held) :
    Receives linkId frames after still holds where
  part := written ▸ receives.part
  whole := by
    intro stays healthy
    rw [written, (unchanged stays).2]
    exact receives.whole (unchanged stays).1 (failed ▸ healthy)

theorem heard (receives : Receives linkId frames half active [])
    (unchanged : still → active ∧ held = frame.payloadOf linkId) :
    Receives linkId (frames ++ [frame]) half still held where
  part := receives.part.trans (payloads_front (List.prefix_append _ _))
  whole := by
    intro stays healthy
    rw [payloads_concat, (unchanged stays).2, ← receives.whole (unchanged stays).1 healthy,
      List.append_nil]

/-- A link may become active as long as there are no data for it. -/
theorem activate (receives : Receives linkId frames half active held)
    (silent : payloads linkId frames = []) (written : after.written = half.written) :
    Receives linkId frames after still [] := by
  have unwritten : after.written = [] := by
    rw [written]
    exact List.prefix_nil.mp (silent ▸ receives.part)
  exact ⟨unwritten ▸ List.nil_prefix, fun _ _ => by rw [unwritten, silent]; rfl⟩

theorem write {link written : Link} {outcome : WriteOutcome}
    (receives : Receives linkId frames link.writer active payload)
    (sent : link.SendPacketStep payload outcome written)
    (sticky : written.writer.resumed = false) (activated : link.state = .connected → active)
    (connected : still → link.state = .connected) :
    Receives linkId frames written.writer still [] := by
  cases sent with
  | dropped gated => exact ⟨receives.part, fun stays => absurd (connected stays) gated⟩
  | sent connected alive =>
      refine ⟨?_, fun _ healthy => by
        rw [List.append_nil]
        exact receives.whole (activated connected) healthy⟩
      change link.writer.written ++ payload <+: _
      cases broken : link.writer.failed with
      | false =>
          exact receives.whole (activated connected) broken ▸ List.prefix_refl _
      | true =>
          have empty : payload = [] := by
            simpa [broken] using (Bool.or_eq_false_iff.mp sticky).2
          rw [empty, List.append_nil]
          exact receives.part
  | @failed accepted connected partially dead =>
      refine ⟨?_, fun _ healthy => by cases healthy⟩
      change link.writer.written ++ payload.take accepted <+: _
      cases broken : link.writer.failed with
      | false =>
          rw [← receives.whole (activated connected) broken]
          exact (List.prefix_append_right_inj _).mpr (List.take_prefix _ _)
      | true =>
          simp only [broken, Bool.true_and, Bool.or_eq_false_iff, decide_eq_false_iff_not,
            ne_eq, not_not] at sticky
          rw [sticky.2, List.take_zero, List.append_nil]
          exact receives.part

end Receives

end IoGateway

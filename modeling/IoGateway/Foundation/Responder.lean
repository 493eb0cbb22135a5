import Mathlib.Data.List.Forall2

/-! # Answering requests in their order

A responder takes one request at a time and works on it until it has given the answer or
has lost it. Its answers then belong to different requests, in the order in which these
were made, and to all of them as long as nothing has been lost.
-/

namespace IoGateway

structure Responder (Request : Type u) (Answer : Type v) where
  asked : List Request
  answered : List Answer
  pending : Option Request
  lossy : Bool

namespace Responder

variable {Request : Type u} {Answer : Type v} {answers : Request → Answer → Prop}

def idle : Responder Request Answer := ⟨[], [], none, false⟩

inductive Step (answers : Request → Answer → Prop) (before after : Responder Request Answer) :
    Prop
  | kept (asked : after.asked = before.asked) (answered : after.answered = before.answered)
      (pending : after.pending = before.pending)
      (lossy : after.lossy = false → before.lossy = false)
  | taken {request : Request} (idle : before.pending = none)
      (asked : after.asked = before.asked ++ [request])
      (answered : after.answered = before.answered) (pending : after.pending = some request)
      (lossy : after.lossy = false → before.lossy = false)
  | given {request : Request} {answer : Answer} (working : before.pending = some request)
      (matching : answers request answer) (asked : after.asked = before.asked)
      (answered : after.answered = before.answered ++ [answer]) (pending : after.pending = none)
      (lossy : after.lossy = false → before.lossy = false)
  | lost {request : Request} (working : before.pending = some request)
      (asked : after.asked = before.asked) (answered : after.answered = before.answered)
      (pending : after.pending = none) (lossy : after.lossy = true)

/-- The answers belong to requests in their order, before the one at work; none of these is
left out while nothing has been lost. -/
def InOrder (answers : Request → Answer → Prop) (responder : Responder Request Answer) : Prop :=
  ∃ served, List.Forall₂ answers served responder.answered ∧
    (served ++ responder.pending.toList).Sublist responder.asked ∧
    (responder.lossy = false → served ++ responder.pending.toList = responder.asked)

theorem inOrder_idle : InOrder answers idle :=
  ⟨[], .nil, List.Sublist.refl _, fun _ => rfl⟩

theorem InOrder.step {before after : Responder Request Answer} (inOrder : InOrder answers before)
    (stepped : Step answers before after) : InOrder answers after := by
  rcases inOrder with ⟨served, matched, part, whole⟩
  cases stepped with
  | kept asked answered pending lossy =>
      rw [← asked, ← pending] at part whole
      exact ⟨served, answered ▸ matched, part, fun healthy => whole (lossy healthy)⟩
  | @taken request idle asked answered pending lossy =>
      rw [idle, Option.toList_none, List.append_nil] at part whole
      refine ⟨served, answered ▸ matched, ?_, ?_⟩
      · rw [pending, asked]
        exact part.append (List.Sublist.refl _)
      · intro healthy
        rw [pending, asked, whole (lossy healthy), Option.toList_some]
  | @given request answer working matching asked answered pending lossy =>
      rw [working, Option.toList_some] at part whole
      refine ⟨served ++ [request], ?_, ?_, ?_⟩
      · rw [answered]
        exact List.rel_append matched (.cons matching .nil)
      · rwa [pending, asked, Option.toList_none, List.append_nil]
      · intro healthy
        rw [pending, asked, Option.toList_none, List.append_nil]
        exact whole (lossy healthy)
  | @lost request working asked answered pending lossy =>
      rw [working, Option.toList_some] at part
      refine ⟨served, answered ▸ matched, ?_, ?_⟩
      · rw [pending, asked, Option.toList_none, List.append_nil]
        exact (List.sublist_append_left served [request]).trans part
      · intro healthy
        rw [lossy] at healthy
        cases healthy

theorem InOrder.length_le {responder : Responder Request Answer}
    (inOrder : InOrder answers responder) :
    responder.answered.length ≤ responder.asked.length := by
  rcases inOrder with ⟨served, matched, part, _⟩
  have shorter := part.length_le
  rw [List.length_append] at shorter
  have same := matched.length_eq
  omega

/-- A responder that works on nothing and has lost nothing has answered what it was asked. -/
theorem InOrder.answered {responder : Responder Request Answer}
    (inOrder : InOrder answers responder) (idle : responder.pending = none)
    (healthy : responder.lossy = false) {request : Request} (asked : request ∈ responder.asked) :
    ∃ answer ∈ responder.answered, answers request answer := by
  rcases inOrder with ⟨served, matched, part, whole⟩
  have all := whole healthy
  rw [idle, Option.toList_none, List.append_nil] at all
  rw [← all] at asked
  generalize responder.answered = given at matched ⊢
  clear all part whole
  induction matched with
  | nil => cases asked
  | cons matching _ induction =>
      rcases List.mem_cons.mp asked with rfl | later
      · exact ⟨_, List.mem_cons_self, matching⟩
      · rcases induction later with ⟨answer, given, matching⟩
        exact ⟨answer, List.mem_cons_of_mem _ given, matching⟩

end Responder

end IoGateway

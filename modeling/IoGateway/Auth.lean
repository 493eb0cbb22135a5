import IoGateway.Foundation.LittleEndian
import Mathlib.Tactic.Common

/-! # Challenge-response authentication

The functions of `auth.rs`. HMAC-SHA256 is a parameter: any function of a key
and a message with a 32-byte output.
-/

namespace IoGateway

def nonceSize : Nat := 32

def responseSize : Nat := 32

structure Hmac where
  compute : (key message : Bytes) → Bytes
  length_compute : ∀ key message : Bytes, (compute key message).length = responseSize

structure Nonce where
  bytes : Bytes
  length_bytes : bytes.length = nonceSize
deriving DecidableEq

/-- A stand-in with the right output size: the first bytes of key and message. -/
def Hmac.truncated : Hmac where
  compute key message := (key ++ message ++ List.replicate responseSize 0).take responseSize
  length_compute := by
    intro key message
    rw [List.length_take, List.length_append, List.length_replicate]
    omega

def zeroNonce : Nonce := ⟨List.replicate nonceSize 0, List.length_replicate⟩

def computeResponse (hmac : Hmac) (key nonce : Bytes) : Bytes := hmac.compute key nonce

/-- The length is checked before the bytes are compared, whose differences
accumulate in one byte. -/
def verifyResponse (hmac : Hmac) (key nonce response : Bytes) : Bool :=
  let expected := computeResponse hmac key nonce
  if response.length ≠ responseSize then
    false
  else
    (expected.zip response).foldl (fun result pair => result ||| (pair.1 ^^^ pair.2)) 0 == 0

attribute [simp] Hmac.length_compute Nonce.length_bytes

@[simp] theorem length_computeResponse (hmac : Hmac) (key nonce : Bytes) :
    (computeResponse hmac key nonce).length = responseSize :=
  hmac.length_compute key nonce

/-- The accumulated differences vanish only between equal strings. -/
theorem foldl_xor_eq_zero : ∀ (expected response : Bytes) (result : UInt8),
    expected.length = response.length →
    ((expected.zip response).foldl (fun result pair => result ||| (pair.1 ^^^ pair.2)) result = 0 ↔
      result = 0 ∧ expected = response)
  | [], [], result, _ => by simp
  | byte :: expected, other :: response, result, length => by
      have later := foldl_xor_eq_zero expected response (result ||| (byte ^^^ other))
        (Nat.succ.inj length)
      simp only [List.zip_cons_cons, List.foldl_cons, later, UInt8.or_eq_zero_iff,
        UInt8.xor_eq_zero_iff, List.cons.injEq]
      exact and_assoc

theorem verifyResponse_iff (hmac : Hmac) (key nonce response : Bytes) :
    verifyResponse hmac key nonce response = true ↔
      response = computeResponse hmac key nonce := by
  unfold verifyResponse
  by_cases sized : response.length = responseSize
  · have compared := foldl_xor_eq_zero (computeResponse hmac key nonce) response 0
      (by rw [length_computeResponse, sized])
    simp only [ne_eq, sized, not_true, if_false, beq_iff_eq, compared, true_and]
    exact eq_comm
  · have different : response ≠ computeResponse hmac key nonce := by
      intro equal
      exact sized (equal ▸ length_computeResponse hmac key nonce)
    simp [sized, different]

end IoGateway

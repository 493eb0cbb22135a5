import Mathlib.Algebra.Group.Nat.Defs

/-! # Little-endian byte strings

Fixed-width little-endian encodings of natural numbers, least significant byte
first, and their two inverse laws.
-/

namespace IoGateway

abbrev Bytes := List UInt8

namespace LittleEndian

/-- The low `width` bytes of a natural number. -/
def encode : (width value : Nat) → Bytes
  | 0, _ => []
  | width + 1, value => UInt8.ofNat value :: encode width (value / 256)

def decode : Bytes → Nat
  | [] => 0
  | byte :: rest => byte.toNat + 256 * decode rest

@[simp] theorem length_encode : ∀ width value : Nat, (encode width value).length = width
  | 0, _ => rfl
  | width + 1, value => by simp [encode, length_encode width]

theorem decode_lt : ∀ bytes : Bytes, decode bytes < 256 ^ bytes.length
  | [] => by simp [decode]
  | byte :: rest => by
      have restBound := decode_lt rest
      have byteBound := byte.toNat_lt
      simp only [decode, List.length_cons, Nat.pow_succ]
      omega

theorem decode_encode : ∀ width value : Nat, decode (encode width value) = value % 256 ^ width
  | 0, value => by simp [encode, decode, Nat.mod_one]
  | width + 1, value => by
      have rest := decode_encode width (value / 256)
      simp only [encode, decode, rest, UInt8.toNat_ofNat', Nat.reducePow]
      rw [Nat.pow_succ, Nat.mul_comm (256 ^ width) 256, Nat.mod_mul]

theorem decode_encode_of_lt {width value : Nat} (bound : value < 256 ^ width) :
    decode (encode width value) = value := by
  rw [decode_encode, Nat.mod_eq_of_lt bound]

theorem encode_decode : ∀ bytes : Bytes, encode bytes.length (decode bytes) = bytes
  | [] => rfl
  | byte :: rest => by
      have byteBound := byte.toNat_lt
      have low : UInt8.ofNat (byte.toNat + 256 * decode rest) = byte := by
        apply UInt8.toNat_inj.mp
        rw [UInt8.toNat_ofNat']
        omega
      have high : (byte.toNat + 256 * decode rest) / 256 = decode rest := by omega
      simp only [List.length_cons, encode, decode, low, high, encode_decode rest]

end LittleEndian

end IoGateway

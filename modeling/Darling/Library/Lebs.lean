import Mathlib.Data.Nat.Bitwise
import Darling.Library.Codecs

/-! Integers of variable length: seven bits in a byte, the lowest first, and a mark on every byte but the last. -/
namespace Darling.Lebs

open Codecs (Bytes)

/-- The forms of a natural number, padded ones too. -/
inductive Uleb : Nat → Bytes → Prop where
  | last {digit : Nat} (small : digit < 128) : Uleb digit [UInt8.ofNat digit]
  | more {digit number : Nat} {bytes : Bytes} (small : digit < 128) (rest : Uleb number bytes) :
      Uleb (digit + 128 * number) (UInt8.ofNat (digit + 128) :: bytes)

/-- The forms of an integer. The bit below the mark of the last byte is the sign. -/
inductive Sleb : Int → Bytes → Prop where
  | positive {digit : Nat} (small : digit < 64) : Sleb digit [UInt8.ofNat digit]
  | negative {digit : Nat} (large : 64 ≤ digit) (small : digit < 128) : Sleb (digit - 128) [UInt8.ofNat digit]
  | more {digit : Nat} {number : Int} {bytes : Bytes} (small : digit < 128) (rest : Sleb number bytes) :
      Sleb (digit + 128 * number) (UInt8.ofNat (digit + 128) :: bytes)

theorem or_shift {value shift : Nat} (below : value < 2 ^ shift) (digit : Nat) :
    value ||| (digit <<< shift) = value + digit * 2 ^ shift := by
  rw [Nat.shiftLeft_eq, Nat.mul_comm digit, Nat.or_comm, ← Nat.two_pow_add_eq_or_of_lt below, Nat.add_comm]

theorem or_shift_lt {value shift digit : Nat} (below : value < 2 ^ shift) (small : digit < 128) :
    value + digit * 2 ^ shift < 2 ^ (shift + 7) := by
  have next : 2 ^ (shift + 7) = 128 * 2 ^ shift := by
    rw [Nat.pow_add, Nat.mul_comm]
  have bound : (digit + 1) * 2 ^ shift ≤ 128 * 2 ^ shift := Nat.mul_le_mul_right _ small
  rw [Nat.succ_mul] at bound
  omega

/-- The payload and the mark of a byte. -/
theorem last_bits {digit : Nat} (small : digit < 128) :
    (UInt8.ofNat digit).toNat &&& 0x7F = digit ∧ (UInt8.ofNat digit).toNat &&& 0x80 = 0 := by
  have all : ∀ digit : Fin 128, (UInt8.ofNat digit).toNat &&& 0x7F = digit ∧
      (UInt8.ofNat digit).toNat &&& 0x80 = 0 := by
    decide
  exact all ⟨digit, small⟩

theorem more_bits {digit : Nat} (small : digit < 128) :
    (UInt8.ofNat (digit + 128)).toNat &&& 0x7F = digit ∧ (UInt8.ofNat (digit + 128)).toNat &&& 0x80 ≠ 0 := by
  have all : ∀ digit : Fin 128,
      (UInt8.ofNat (digit + 128)).toNat &&& 0x7F = digit ∧ (UInt8.ofNat (digit + 128)).toNat &&& 0x80 ≠ 0 := by decide
  exact all ⟨digit, small⟩

theorem sign_bit {digit : Nat} (small : digit < 128) : (UInt8.ofNat digit).toNat &&& 0x40 = 0 ↔ digit < 64 := by
  have all : ∀ digit : Fin 128, (UInt8.ofNat digit).toNat &&& 0x40 = 0 ↔ digit.val < 64 := by decide
  exact all ⟨digit, small⟩

end Darling.Lebs

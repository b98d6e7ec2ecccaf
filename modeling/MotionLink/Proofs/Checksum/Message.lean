import Mathlib
import MotionLink.Proofs.Checksum.Polynomial

/-!
# The polynomial of a message

A run of bytes stands for the polynomial whose coefficients are its bits, the
first bit of the first byte leading (`message`). Taking a run into a register
adds the run's polynomial to that of the register, moved to where the run ends
(`residue_update`).
-/

namespace MotionLink

open Polynomial

/-- The bit at a position: bytes in order, the most significant bit of each first. -/
def Bytes.bit (bytes : Bytes) (position : ℕ) : Bool :=
  (bytes.getD (position / 8) 0).toNat.testBit (7 - position % 8)

/-- The first eight bits are those of the first byte, the most significant
first. -/
theorem Bytes.bit_cons_of_lt (byte : UInt8) (rest : Bytes) {position : ℕ} (first : position < 8) :
    bit (byte :: rest) position = byte.toNat.testBit (7 - position) := by
  rw [bit, Nat.div_eq_of_lt first, Nat.mod_eq_of_lt first, List.getD_cons_zero]

/-- Behind them come the bits of the other bytes. -/
theorem Bytes.bit_cons_add (byte : UInt8) (rest : Bytes) (position : ℕ) :
    bit (byte :: rest) (8 + position) = bit rest position := by
  rw [bit, bit, Nat.add_mod_left, Nat.add_div_left position (by decide), List.getD_cons_succ]

/-- Bytes that are put behind a run do not change its bits. -/
theorem Bytes.bit_append_of_lt (bytes more : Bytes) {position : ℕ}
    (inside : position < 8 * bytes.length) : bit (bytes ++ more) position = bit bytes position := by
  rw [bit, bit, List.getD_append _ _ _ _ (by omega)]

/-- Their own bits are found behind those of the run. -/
theorem Bytes.bit_append_add (bytes more : Bytes) (position : ℕ) :
    bit (bytes ++ more) (8 * bytes.length + position) = bit more position := by
  have behind : (8 * bytes.length + position) / 8 = bytes.length + position / 8 := by omega
  rw [bit, bit, Nat.mul_add_mod, behind, List.getD_append_right _ _ _ _ (Nat.le_add_right ..),
    Nat.add_sub_cancel_left]

namespace Checksum

/-- The polynomial whose coefficients are the bits of a run. -/
noncomputable def message (bytes : Bytes) : (ZMod 2)[X] :=
  ∑ p ∈ Finset.range (8 * bytes.length),
    if bytes.bit p then X ^ (8 * bytes.length - 1 - p) else 0

/-- There are no bits in no bytes. -/
theorem message_nil : message [] = 0 := rfl

/-- The bits of one byte, most significant first, are its digits. Both number
the same eight, in opposite directions. -/
theorem sum_bits (byte : UInt8) :
    (∑ p ∈ Finset.range 8, if byte.toNat.testBit (7 - p) then X ^ (7 - p) else 0) =
      binary byte.toNat := by
  rw [binary_eq_sum byte.toNat_lt]
  exact Finset.sum_range_reflect (fun k => if byte.toNat.testBit k then X ^ k else 0) 8

/-- The first byte stands before all others: its digits are moved by eight
places for each of them. -/
theorem message_cons (byte : UInt8) (rest : Bytes) :
    message (byte :: rest) = X ^ (8 * rest.length) * binary byte.toNat + message rest := by
  have long : 8 * (byte :: rest).length = 8 + 8 * rest.length := by
    rw [List.length_cons]
    omega
  rw [message, long, Finset.sum_range_add, ← sum_bits, Finset.mul_sum]
  refine congrArg₂ (· + ·) (Finset.sum_congr rfl fun p mem => ?_)
    (Finset.sum_congr rfl fun p mem => ?_)
  · have first := Finset.mem_range.mp mem
    have place : 8 + 8 * rest.length - 1 - p = 8 * rest.length + (7 - p) := by omega
    rw [Bytes.bit_cons_of_lt byte rest first, mul_ite, mul_zero, ← pow_add, place]
  · have place : 8 + 8 * rest.length - 1 - (8 + p) = 8 * rest.length - 1 - p := by omega
    rw [Bytes.bit_cons_add, place]

/-- A register takes a byte in as its digits, moved past the register. What the
register held before moves by the eight steps that the byte takes. -/
theorem residue_absorb (register : UInt16) (byte : UInt8) :
    residue (absorb register byte) =
      AdjoinRoot.root divisor ^ 8 * residue register +
        AdjoinRoot.root divisor ^ 16 * AdjoinRoot.mk divisor (binary byte.toNat) := by
  have moved : (byte.toUInt16 <<< 8).toNat = 2 ^ 8 * byte.toNat + 0 := by
    have below := byte.toNat_lt
    have shifted := Nat.shiftLeft_eq byte.toNat 8
    rw [UInt16.toNat_shiftLeft, UInt8.toNat_toUInt16]
    show byte.toNat <<< 8 % 2 ^ 16 = _
    omega
  have digits : residue (byte.toUInt16 <<< 8) =
      AdjoinRoot.root divisor ^ 8 * AdjoinRoot.mk divisor (binary byte.toNat) := by
    rw [residue, moved, binary_two_pow_mul_add _ (by decide), binary_zero, add_zero, map_mul,
      map_pow, AdjoinRoot.mk_X]
  rw [absorb, residue_repeat, residue_xor, digits]
  ring

/-- A register takes a run in as its polynomial, moved past the register. This
is the invariant of the loop over the bytes, and all that is used of the loop. -/
theorem residue_update (register : UInt16) (bytes : Bytes) :
    residue (update register bytes) =
      AdjoinRoot.root divisor ^ (8 * bytes.length) * residue register +
        AdjoinRoot.root divisor ^ 16 * AdjoinRoot.mk divisor (message bytes) := by
  induction bytes generalizing register with
  | nil => rw [message_nil, map_zero, mul_zero, add_zero, List.length_nil, pow_zero, one_mul]; rfl
  | cons byte rest ih =>
    have first : update register (byte :: rest) = update (absorb register byte) rest := rfl
    rw [first, ih, residue_absorb, message_cons, map_add, map_mul, map_pow, AdjoinRoot.mk_X,
      List.length_cons]
    ring

end Checksum

end MotionLink

import Mathlib
import MotionLink.Proofs.Checksum.Message
import MotionLink.Proofs.Frame.Parts

/-!
# Damage that the checksum finds

Each bit of a frame stands for a power of `x` modulo the divisor (`exponent`),
and a frame is valid when the powers of its set bits add up to a value that only
its length decides (`valid_iff_image`). So between two valid frames of one
length the powers of the bits that differ cancel (`sum_flips`). They cannot:

* for two bits, because the first 896 powers of `x` are distinct
  (`root_pow_injective`) and no frame has more bits;
* for an odd number of bits, because the divisor has the factor `x + 1`
  (`atOne`);
* for bits of the content within sixteen of each other, because their powers are
  one power of `x`, which has an inverse, times a polynomial of lower degree than
  the divisor.
-/

namespace MotionLink

open Polynomial

/-- The positions of the bits in which a run of the same length differs from the one sent. -/
def Bytes.flips (sent received : Bytes) : Finset ℕ :=
  (Finset.range (8 * sent.length)).filter fun p => sent.bit p ≠ received.bit p

namespace Checksum

/-! ## Powers of `x` -/

/-- Coefficients are of the field of two elements, where two vanishes. -/
theorem two_eq_zero : (2 : AdjoinRoot divisor) = 0 := by
  have two : (2 : ZMod 2) = 0 := rfl
  rw [← map_ofNat (AdjoinRoot.of divisor) 2, two, map_zero]

/-- Hence a class added to itself vanishes, and what differs can be found by
adding. -/
theorem add_self (a : AdjoinRoot divisor) : a + a = 0 := by
  rw [← two_mul, two_eq_zero, zero_mul]

/-- The divisor vanishes modulo itself, which rewrites the sixteenth power of
`x`. -/
theorem root_relation :
    AdjoinRoot.root divisor ^ 16 + AdjoinRoot.root divisor ^ 12 + AdjoinRoot.root divisor ^ 5 + 1 =
      0 := by
  have vanishes := @AdjoinRoot.mk_self _ _ divisor
  rwa [divisor, map_add, map_add, map_add, map_pow, map_pow, map_pow, map_one, AdjoinRoot.mk_X,
    ← divisor] at vanishes

/-- The constant term of the divisor gives `x` an inverse, so that a power of it
can be taken off both sides of an equation. -/
theorem isUnit_root : IsUnit (AdjoinRoot.root divisor) := by
  refine IsUnit.of_mul_eq_one
    (AdjoinRoot.root divisor ^ 15 + AdjoinRoot.root divisor ^ 11 + AdjoinRoot.root divisor ^ 4) ?_
  linear_combination root_relation - two_eq_zero

/-- Whether a register misses the value one at each of so many steps. -/
def missesOne : ℕ → UInt16 → Bool
  | 0, _ => true
  | n + 1, register => shift register != 1 && missesOne n (shift register)

/-- The first of several steps may be taken alone. -/
theorem repeat_shift_succ (k : ℕ) (register : UInt16) :
    Nat.repeat shift (k + 1) register = Nat.repeat shift k (shift register) := by
  induction k with
  | zero => rfl
  | succ k ih => rw [Nat.repeat, ih, Nat.repeat]

/-- A register that misses the value one at each of so many steps does not have
it after any of them. -/
theorem repeat_ne_one {n : ℕ} {register : UInt16} (misses : missesOne n register) {k : ℕ}
    (inside : k < n) : Nat.repeat shift (k + 1) register ≠ 1 := by
  induction n generalizing register k with
  | zero => exact absurd inside (Nat.not_lt_zero k)
  | succ n ih =>
    obtain ⟨first, rest⟩ := Bool.and_eq_true_iff.mp misses
    cases k with
    | zero => exact bne_iff_ne.mp first
    | succ k =>
      rw [repeat_shift_succ]
      exact ih rest (Nat.lt_of_succ_lt_succ inside)

/-- Starting at one, a register does not come back to it within the 895 steps
that the longest frame has room for. The steps are run here, once and for all. -/
theorem missesOne_frame : missesOne 895 1 = true := by decide +kernel

/-- In terms of powers: none below the length of the longest frame in bits is
one, except for that of zero. -/
theorem root_pow_ne_one {k : ℕ} (positive : 0 < k) (small : k < 896) :
    AdjoinRoot.root divisor ^ k ≠ 1 := by
  intro same
  obtain ⟨j, rfl⟩ := Nat.exists_eq_add_of_lt positive
  rw [Nat.zero_add] at same small
  have power := residue_repeat 1 (j + 1)
  rw [residue_one, mul_one, same, ← residue_one] at power
  exact repeat_ne_one missesOne_frame (show j < 895 by omega) (residue_injective power)

/-- Nor are two of them the same, since the smaller could be taken off both. -/
theorem root_pow_ne {i j : ℕ} (less : i < j) (small : j < 896) :
    AdjoinRoot.root divisor ^ i ≠ AdjoinRoot.root divisor ^ j := by
  intro same
  have steps : j = i + (j - i) := by omega
  rw [steps, pow_add] at same
  have one := (isUnit_root.pow i).mul_left_cancel ((mul_one _).trans same)
  exact root_pow_ne_one (by omega) (by omega) one.symm

/-- The powers of `x` below the length of the longest frame in bits are
distinct, so that a bit of a frame is known by its power. -/
theorem root_pow_injective {i j : ℕ} (small : i < 896) (small' : j < 896)
    (same : AdjoinRoot.root divisor ^ i = AdjoinRoot.root divisor ^ j) : i = j := by
  rcases Nat.lt_trichotomy i j with less | equal | more
  · exact absurd same (root_pow_ne less small')
  · exact equal
  · exact absurd same.symm (root_pow_ne more small)

/-- The value of a class at one, which the divisor's factor `x + 1` makes well defined. -/
noncomputable def atOne : AdjoinRoot divisor →+* ZMod 2 :=
  AdjoinRoot.lift (RingHom.id (ZMod 2)) 1 (by
    simp only [divisor, eval₂_add, eval₂_X_pow, eval₂_one, one_pow]
    rfl)

/-- All powers of `x` have the value one there, so that the value of a sum of
powers is the parity of their number. -/
theorem atOne_root_pow (k : ℕ) : atOne (AdjoinRoot.root divisor ^ k) = 1 := by
  rw [map_pow, atOne, AdjoinRoot.lift_root, one_pow]

/-! ## The bits of a frame -/

/-- The power of `x` that a bit of a frame stands for. The trailer's bytes change places, since
the last of them has the leading bits of the check value. -/
def exponent (length position : ℕ) : ℕ :=
  if position < 8 * (length - 2) then 8 * length - 1 - position
  else if position < 8 * (length - 1) then 8 * length - 9 - position
  else 8 * length + 7 - position

/-- A bit of a frame stands for a power below the length of the frame in bits. -/
theorem exponent_lt {length position : ℕ} (long : 2 ≤ length) (inside : position < 8 * length) :
    exponent length position < 8 * length := by
  unfold exponent
  split_ifs <;> omega

/-- No two bits of a frame stand for one power, whether they are of the content
or of the trailer. -/
theorem exponent_injective {length p q : ℕ} (inside : p < 8 * length) (inside' : q < 8 * length)
    (same : exponent length p = exponent length q) : p = q := by
  unfold exponent at same
  split_ifs at same <;> omega

/-- The sum of the powers of a frame's set bits. -/
noncomputable def image (frame : Bytes) : AdjoinRoot divisor :=
  ∑ p ∈ Finset.range (8 * frame.length),
    if frame.bit p then AdjoinRoot.root divisor ^ exponent frame.length p else 0

/-- The check value in a trailer: its low byte comes first and its high byte
counts for eight powers more. -/
theorem residue_word16 (low high : UInt8) :
    residue (LittleEndian.word16 [low, high]) =
      AdjoinRoot.mk divisor (binary low.toNat) +
        AdjoinRoot.root divisor ^ 8 * AdjoinRoot.mk divisor (binary high.toNat) := by
  have value : (LittleEndian.word16 [low, high]).toNat = 2 ^ 8 * high.toNat + low.toNat := by
    have below := low.toNat_lt
    have below' := high.toNat_lt
    rw [LittleEndian.word16, UInt16.toNat_ofNat', LittleEndian.value, LittleEndian.value,
      LittleEndian.value]
    omega
  rw [residue, value, binary_two_pow_mul_add _ low.toNat_lt, map_add, map_mul, map_pow,
    AdjoinRoot.mk_X, add_comm]

/-- The image of a frame has the polynomial of its content, moved past the
trailer, and the check value in the trailer. -/
theorem image_append (bytes : Bytes) (low high : UInt8) :
    image (bytes ++ [low, high]) =
      AdjoinRoot.root divisor ^ 16 * AdjoinRoot.mk divisor (message bytes) +
        residue (LittleEndian.word16 [low, high]) := by
  have long : (bytes ++ [low, high]).length = bytes.length + 2 := List.length_append
  have bits : 8 * (bytes.length + 2) = 8 * bytes.length + (8 + 8) := by omega
  -- The message moves up by the width of the trailer, whose bytes fill the places below: the low
  -- byte comes first and still has the lower eight.
  rw [image, long, bits, Finset.sum_range_add, Finset.sum_range_add]
  refine congrArg₂ (· + ·) ?_ ?_
  · rw [message, map_sum, Finset.mul_sum]
    refine Finset.sum_congr rfl fun p mem => ?_
    have inside := Finset.mem_range.mp mem
    have place : exponent (bytes.length + 2) p = 16 + (8 * bytes.length - 1 - p) := by
      unfold exponent
      split_ifs <;> omega
    rw [Bytes.bit_append_of_lt _ _ inside, place, pow_add]
    split
    · rw [map_pow, AdjoinRoot.mk_X]
    · rw [map_zero, mul_zero]
  · rw [residue_word16, ← sum_bits, ← sum_bits, map_sum, map_sum, Finset.mul_sum]
    refine congrArg₂ (· + ·) (Finset.sum_congr rfl fun p mem => ?_)
      (Finset.sum_congr rfl fun p mem => ?_)
    · have first := Finset.mem_range.mp mem
      have place : exponent (bytes.length + 2) (8 * bytes.length + p) = 7 - p := by
        unfold exponent
        split_ifs <;> omega
      rw [Bytes.bit_append_add, Bytes.bit_cons_of_lt _ _ first, place]
      split
      · rw [map_pow, AdjoinRoot.mk_X]
      · rw [map_zero]
    · have first := Finset.mem_range.mp mem
      have place : exponent (bytes.length + 2) (8 * bytes.length + (8 + p)) = 8 + (7 - p) := by
        unfold exponent
        split_ifs <;> omega
      rw [Bytes.bit_append_add, Bytes.bit_cons_add, Bytes.bit_cons_of_lt _ _ first, place, pow_add]
      split
      · rw [map_pow, AdjoinRoot.mk_X]
      · rw [map_zero, mul_zero]

/-- A frame is valid when its image is what its length asks for. The condition
no longer speaks of its bytes but for the sum over its bits. -/
theorem valid_iff_image {frame : Bytes} (long : 2 ≤ frame.length) :
    valid frame = true ↔
      image frame = AdjoinRoot.root divisor ^ (8 * (frame.length - 2)) * residue preset := by
  obtain ⟨low, high, ending⟩ : ∃ low high, trailer frame = [low, high] := by
    refine List.length_eq_two.mp ?_
    rw [trailer, List.length_drop, width]
    omega
  have parts : frame = content frame ++ [low, high] := by
    rw [← ending]
    exact (List.take_append_drop _ _).symm
  have short : (content frame).length = frame.length - 2 := by
    rw [content, List.length_take, width]
    omega
  have update := residue_update preset (content frame)
  have bits := image_append (content frame) low high
  rw [short] at update
  rw [← parts] at bits
  rw [valid_iff, and_iff_right (show width ≤ frame.length from long), ending,
    ← residue_injective.eq_iff, bits, ofBytes, update]
  -- Over two elements a term cancels by being added to itself, on whichever side it stands.
  have twice :=
    add_self (AdjoinRoot.root divisor ^ 16 * AdjoinRoot.mk divisor (message (content frame)))
  constructor
  · intro same
    linear_combination same + twice
  · intro same
    linear_combination same - twice

/-- Between two valid frames of one length, the powers of the bits that differ
cancel: both images are the same, and the bits they share vanish in the sum. -/
theorem sum_flips {sent received : Bytes} (length : received.length = sent.length)
    (long : 2 ≤ sent.length) (intact : valid sent = true) (accepted : valid received = true) :
    ∑ p ∈ sent.flips received, AdjoinRoot.root divisor ^ exponent sent.length p = 0 := by
  have same := (valid_iff_image long).mp intact
  rw [← length] at same
  have same := same.trans ((valid_iff_image (length ▸ long)).mp accepted).symm
  have cancel : image sent + image received = 0 := by
    rw [same, add_self]
  refine Eq.trans ?_ cancel
  rw [Bytes.flips, Finset.sum_filter, image, image, length, ← Finset.sum_add_distrib]
  refine Finset.sum_congr rfl fun p _ => ?_
  cases sent.bit p <;> cases received.bit p
  · exact (add_zero 0).symm
  · exact (zero_add _).symm
  · exact (add_zero _).symm
  · exact (add_self _).symm

/-! ## Damage -/

/-- Damage of a kind that is always found: to two bits, to an odd number of bits, or within
sixteen bits in a row before the trailer. -/
def Damaged (sent received : Bytes) : Prop :=
  (sent.flips received).card = 2 ∨ Odd (sent.flips received).card ∨
    (sent.flips received).Nonempty ∧
      ∃ start, ∀ p ∈ sent.flips received,
        start ≤ p ∧ p < start + 16 ∧ p < 8 * (sent.length - width)

section

variable {flips : Finset ℕ} {length : ℕ}

/-- The powers of two bits do not cancel, being two powers of `x` below the
length of the longest frame. -/
theorem sum_ne_zero_of_two (short : length ≤ 112) (long : 2 ≤ length)
    (inside : ∀ p ∈ flips, p < 8 * length) (two : flips.card = 2) :
    ∑ p ∈ flips, AdjoinRoot.root divisor ^ exponent length p ≠ 0 := by
  obtain ⟨p, q, other, rfl⟩ := Finset.card_eq_two.mp two
  have left := inside p (Finset.mem_insert_self p _)
  have right := inside q (Finset.mem_insert_of_mem (Finset.mem_singleton_self q))
  have below := exponent_lt long left
  have below' := exponent_lt long right
  intro cancel
  rw [Finset.sum_pair other] at cancel
  have same : AdjoinRoot.root divisor ^ exponent length p =
      AdjoinRoot.root divisor ^ exponent length q := by
    linear_combination cancel - add_self (AdjoinRoot.root divisor ^ exponent length q)
  exact other (exponent_injective left right
    (root_pow_injective (by omega) (by omega) same))

/-- The powers of an odd number of bits do not cancel: at one, their sum is one. -/
theorem sum_ne_zero_of_odd (odd : Odd flips.card) :
    ∑ p ∈ flips, AdjoinRoot.root divisor ^ exponent length p ≠ 0 := by
  intro cancel
  have ones := congrArg atOne cancel
  rw [map_sum, map_zero] at ones
  simp only [atOne_root_pow, Finset.sum_const, nsmul_eq_mul, mul_one] at ones
  exact ZMod.natCast_ne_zero_iff_odd.mpr odd ones

/-- The powers of bits that are close together do not cancel. Their least power
can be taken out, and what is left is a polynomial below the degree of the
divisor. -/
theorem sum_ne_zero_of_burst {start : ℕ} (some : flips.Nonempty)
    (close : ∀ p ∈ flips, start ≤ p ∧ p < start + 16 ∧ p < 8 * (length - width)) :
    ∑ p ∈ flips, AdjoinRoot.root divisor ^ exponent length p ≠ 0 := by
  obtain ⟨first, mem⟩ := some
  have window := close first mem
  intro cancel
  -- All powers have the last one of the window in common.
  have common : ∑ p ∈ flips, AdjoinRoot.root divisor ^ exponent length p =
      AdjoinRoot.root divisor ^ (8 * length - 16 - start) *
        AdjoinRoot.mk divisor (∑ p ∈ flips, X ^ (start + 15 - p)) := by
    rw [map_sum, Finset.mul_sum]
    refine Finset.sum_congr rfl fun p mem => ?_
    have near := close p mem
    have place : exponent length p = 8 * length - 16 - start + (start + 15 - p) := by
      unfold exponent width at *
      split_ifs <;> omega
    rw [place, pow_add, map_pow, AdjoinRoot.mk_X]
  have vanishes : AdjoinRoot.mk divisor (∑ p ∈ flips, X ^ (start + 15 - p)) = 0 :=
    (isUnit_root.pow _).mul_left_cancel ((common.symm.trans cancel).trans (mul_zero _).symm)
  have small : (∑ p ∈ flips, X ^ (start + 15 - p) : (ZMod 2)[X]).degree < 16 := by
    refine (degree_sum_le _ _).trans_lt ((Finset.sup_lt_iff (WithBot.bot_lt_coe 16)).mpr ?_)
    intro p mem
    have near := close p mem
    rw [degree_X_pow]
    exact WithBot.coe_lt_coe.mpr (show start + 15 - p < 16 by omega)
  -- Yet the power of the first bit occurs once.
  have coefficient := congrArg (·.coeff (start + 15 - first)) (eq_zero_of_mk_eq_zero small vanishes)
  simp only [finsetSum_coeff, coeff_X_pow, coeff_zero] at coefficient
  rw [Finset.sum_eq_single_of_mem first mem, if_pos rfl] at coefficient
  · exact one_ne_zero coefficient
  · intro p mem' other
    have near := close p mem'
    exact if_neg (by omega)

end

/-- Damage of these kinds to a valid frame of a possible length is found,
whichever bits it is done to. -/
theorem valid_eq_false_of_damaged {sent received : Bytes} (short : sent.length ≤ 112)
    (long : 2 ≤ sent.length) (length : received.length = sent.length)
    (intact : valid sent = true) (damaged : Damaged sent received) : valid received = false := by
  by_contra accepted
  have cancel := sum_flips length long intact (Bool.not_eq_false _ ▸ accepted)
  have inside : ∀ p ∈ sent.flips received, p < 8 * sent.length := fun p mem =>
    Finset.mem_range.mp (Finset.mem_filter.mp mem).1
  rcases damaged with two | odd | ⟨some, start, close⟩
  · exact sum_ne_zero_of_two short long inside two cancel
  · exact sum_ne_zero_of_odd odd cancel
  · exact sum_ne_zero_of_burst some close cancel

end Checksum

end MotionLink

import Mathlib
import MotionLink.Checksum

/-!
# The register as a polynomial

A register stands for the polynomial over `GF(2)` whose coefficients are its
bits (`binary`). One division step multiplies by `x` and takes the divisor off
where the top bit is set (`binary_shift`), so it multiplies the residue modulo
the divisor by `x` (`residue_shift`). A register has fewer bits than the divisor
has degree: it is known by its residue (`residue_injective`).
-/

namespace MotionLink.Checksum

open Polynomial

/-! ## Binary digits as coefficients -/

/-- A number that fits a width has no digits behind it. With this the sums of
powers below are finite: from the width of the number on, no digit contributes. -/
theorem testBit_of_le {n width k : ℕ} (small : n < 2 ^ width) (high : width ≤ k) :
    n.testBit k = false :=
  Nat.testBit_lt_two_pow (small.trans_le (Nat.pow_le_pow_right Nat.two_pos high))

/-- The polynomial whose coefficients are the binary digits of a number. -/
noncomputable def binary (n : ℕ) : (ZMod 2)[X] :=
  ∑ k ∈ Finset.range n.size, if n.testBit k then X ^ k else 0

/-- The coefficients are the digits, at all places and not only at those of the
sum. -/
theorem coeff_binary (n k : ℕ) : (binary n).coeff k = if n.testBit k then 1 else 0 := by
  unfold binary
  rw [finsetSum_coeff]
  by_cases inside : k ∈ Finset.range n.size
  · rw [Finset.sum_eq_single_of_mem k inside]
    · split
      · rw [coeff_X_pow_self]
      · rw [coeff_zero]
    · intro j _ other
      split
      · rw [coeff_X_pow, if_neg other.symm]
      · rw [coeff_zero]
  · have high : n.size ≤ k := Nat.not_lt.mp fun low => inside (Finset.mem_range.mpr low)
    rw [testBit_of_le (Nat.lt_size_self n) high, if_neg Bool.false_ne_true]
    refine Finset.sum_eq_zero fun j mem => ?_
    have other : k ≠ j := fun same => inside (same ▸ mem)
    split
    · rw [coeff_X_pow, if_neg other]
    · rw [coeff_zero]

/-- Numbers with the same polynomial are the same, since a number is known by
its digits. Registers are compared by their polynomials from here on. -/
theorem binary_injective : Function.Injective binary := by
  intro m n same
  apply Nat.eq_of_testBit_eq
  intro k
  have coefficient := congrArg (·.coeff k) same
  simp only [coeff_binary] at coefficient
  cases ofM : m.testBit k <;> cases ofN : n.testBit k <;> rw [ofM, ofN] at coefficient
  · exact absurd coefficient (by decide)
  · exact absurd coefficient (by decide)

/-- No digit is set in zero, so its polynomial vanishes. -/
theorem binary_zero : binary 0 = 0 := by
  ext k
  rw [coeff_binary, Nat.zero_testBit, coeff_zero]
  rfl

/-- One has its last digit set and no other: its polynomial is constant. -/
theorem binary_one : binary 1 = 1 := by
  ext k
  simp only [coeff_binary, Nat.testBit_one_eq_true_iff_self_eq_zero, coeff_one]

/-- Exclusive or adds the coefficients, for in the field of two elements two
ones cancel. This is why a checksum is linear. -/
theorem binary_xor (m n : ℕ) : binary (m ^^^ n) = binary m + binary n := by
  ext k
  rw [coeff_add, coeff_binary, coeff_binary, coeff_binary, Nat.testBit_xor]
  cases m.testBit k <;> cases n.testBit k <;> rfl

/-- Digits that stand next to each other: those of the number in front are moved
by as many places as the number behind is wide. -/
theorem binary_two_pow_mul_add {k b : ℕ} (a : ℕ) (small : b < 2 ^ k) :
    binary (2 ^ k * a + b) = X ^ k * binary a + binary b := by
  ext j
  rw [coeff_add, coeff_X_pow_mul', coeff_binary, coeff_binary, coeff_binary,
    Nat.testBit_two_pow_mul_add a small]
  by_cases low : j < k
  · rw [if_pos low, if_neg (Nat.not_le.mpr low), zero_add]
  · have high := Nat.not_lt.mp low
    rw [if_neg low, if_pos high, testBit_of_le small high, if_neg Bool.false_ne_true, add_zero]

/-- Moving the digits by one place multiplies by `x`. -/
theorem binary_two_mul (n : ℕ) : binary (2 * n) = X * binary n := by
  have digits := @binary_two_pow_mul_add 1 0 n (by decide)
  rwa [pow_one, pow_one, binary_zero, add_zero, add_zero] at digits

/-- A number may be cut at any place, and its polynomial is put together of the
two parts again. -/
theorem binary_div_mod (n k : ℕ) :
    X ^ k * binary (n / 2 ^ k) + binary (n % 2 ^ k) = binary n := by
  rw [← binary_two_pow_mul_add _ (Nat.mod_lt n (Nat.two_pow_pos k)), Nat.div_add_mod]

/-- A number that fits a width has a polynomial of lower degree: a register of
sixteen bits stays below the divisor. -/
theorem degree_binary_lt {n width : ℕ} (small : n < 2 ^ width) : (binary n).degree < width := by
  rw [degree_lt_iff_coeff_zero]
  intro k high
  rw [coeff_binary, testBit_of_le small high]
  rfl

/-- The digits of a number that fits a width, summed over the width and not over
the number's own length, so that sums of several numbers run over one range. -/
theorem binary_eq_sum {n width : ℕ} (small : n < 2 ^ width) :
    binary n = ∑ k ∈ Finset.range width, if n.testBit k then X ^ k else 0 := by
  refine Finset.sum_subset (Finset.range_mono (Nat.size_le.mpr small)) fun k _ outside => ?_
  have high : n.size ≤ k := Nat.not_lt.mp fun inside => outside (Finset.mem_range.mpr inside)
  rw [testBit_of_le (Nat.lt_size_self n) high, if_neg Bool.false_ne_true]

/-! ## The divisor -/

/-- The generator polynomial with its leading term. -/
noncomputable def divisor : (ZMod 2)[X] := X ^ 16 + X ^ 12 + X ^ 5 + 1

/-- The leading term, which no register has room for, makes the degree sixteen. -/
theorem degree_divisor : divisor.degree = 16 := by
  unfold divisor
  compute_degree!

/-- Being monic, the divisor divides every polynomial, with a remainder below
it. -/
theorem divisor_monic : divisor.Monic := by
  unfold divisor
  monicity!

/-- The constant in the code is the divisor without its leading term. -/
theorem binary_generator : binary generator.toNat = X ^ 12 + X ^ 5 + 1 := by
  have parts : generator.toNat = 2 ^ 12 * 1 + (2 ^ 5 * 1 + 1) := rfl
  rw [parts, binary_two_pow_mul_add 1 (by decide), binary_two_pow_mul_add 1 (by decide), binary_one,
    mul_one, mul_one, add_assoc]

/-- The top bit of a register decides whether the divisor is taken off: it is
what would be carried out of the register when its digits are moved. -/
theorem top_bit (register : UInt16) :
    register &&& 0x8000 = 0 ↔ 2 * register.toNat / 2 ^ 16 = 0 := by
  have below := register.toNat_lt
  have masked : (register &&& 0x8000).toNat = (register.toNat.testBit 15).toNat * 2 ^ 15 := by
    rw [UInt16.toNat_and]
    exact Nat.and_two_pow register.toNat 15
  rw [← UInt16.toNat_inj, masked, Nat.testBit_eq_decide_div_mod_eq]
  by_cases set : register.toNat / 2 ^ 15 % 2 = 1
  · simp only [set, decide_true, Bool.toNat_true, UInt16.toNat_zero]
    omega
  · simp only [set, decide_false, Bool.toNat_false, UInt16.toNat_zero]
    omega

/-- One division step: times `x`, less the divisor where the top bit is set. The
step of the code, a shift and an exclusive or, is a step of long division. -/
theorem binary_shift (register : UInt16) :
    binary (shift register).toNat =
      X * binary register.toNat + if register &&& 0x8000 = 0 then 0 else divisor := by
  have doubled : (register <<< 1).toNat = 2 * register.toNat % 2 ^ 16 := by
    rw [UInt16.toNat_shiftLeft, Nat.mul_comm]
    exact congrArg (· % 2 ^ 16) (Nat.shiftLeft_eq register.toNat 1)
  have moved := binary_div_mod (2 * register.toNat) 16
  rw [← doubled, binary_two_mul] at moved
  rw [← moved, shift]
  by_cases clear : register &&& 0x8000 = 0
  · rw [if_pos clear, if_pos clear, (top_bit register).mp clear, binary_zero, mul_zero, zero_add,
      add_zero]
  · have top : 2 * register.toNat / 2 ^ 16 = 1 := by
      have nonzero := mt (top_bit register).mpr clear
      have below := register.toNat_lt
      omega
    rw [if_neg clear, if_neg clear, top, binary_one, mul_one, UInt16.toNat_xor, binary_xor,
      binary_generator, divisor]
    -- The top bit moves to `x¹⁶`, where the divisor takes it off.
    linear_combination - X ^ 16 * (CharTwo.two_eq_zero : (2 : (ZMod 2)[X]) = 0)

/-! ## The residue of a register -/

/-- The class of a register modulo the divisor. -/
noncomputable def residue (register : UInt16) : AdjoinRoot divisor :=
  AdjoinRoot.mk divisor (binary register.toNat)

/-- The register of the number one is the class of one. -/
theorem residue_one : residue 1 = 1 := by
  rw [residue, UInt16.toNat_one, binary_one, map_one]

/-- Taking a byte in by exclusive or adds its class. -/
theorem residue_xor (a b : UInt16) : residue (a ^^^ b) = residue a + residue b := by
  rw [residue, UInt16.toNat_xor, binary_xor, map_add]
  rfl

/-- A division step is multiplication by `x`, as the divisor that may be taken
off vanishes modulo itself. -/
theorem residue_shift (register : UInt16) :
    residue (shift register) = AdjoinRoot.root divisor * residue register := by
  rw [residue, binary_shift, map_add, map_mul, AdjoinRoot.mk_X]
  split
  · rw [map_zero, add_zero]
    rfl
  · rw [AdjoinRoot.mk_self, add_zero]
    rfl

/-- So are many steps multiplication by a power of `x`. -/
theorem residue_repeat (register : UInt16) (n : ℕ) :
    residue (Nat.repeat shift n register) = AdjoinRoot.root divisor ^ n * residue register := by
  induction n with
  | zero => rw [pow_zero, one_mul, Nat.repeat]
  | succ n ih => rw [Nat.repeat, residue_shift, ih, pow_succ', mul_assoc]

/-- A polynomial of lower degree than the divisor is known by its class: a
multiple of the divisor that is smaller than it is zero. -/
theorem eq_zero_of_mk_eq_zero {p : (ZMod 2)[X]} (small : p.degree < 16)
    (vanishes : AdjoinRoot.mk divisor p = 0) : p = 0 := by
  by_contra nonzero
  exact divisor_monic.not_dvd_of_degree_lt nonzero (degree_divisor ▸ small)
    (AdjoinRoot.mk_eq_zero.mp vanishes)

/-- A register is known by its class, since it has fewer digits than the divisor
has degree. Equations between classes are therefore equations between registers. -/
theorem residue_injective : Function.Injective residue := by
  intro a b same
  have vanishes : AdjoinRoot.mk divisor (binary a.toNat - binary b.toNat) = 0 := by
    rw [map_sub]
    exact sub_eq_zero.mpr same
  have small : (binary a.toNat - binary b.toNat).degree < 16 :=
    (degree_sub_le _ _).trans_lt
      (max_lt (degree_binary_lt a.toNat_lt) (degree_binary_lt b.toNat_lt))
  have same := sub_eq_zero.mp (eq_zero_of_mk_eq_zero small vanishes)
  exact UInt16.toNat_inj.mp (binary_injective same)

end MotionLink.Checksum

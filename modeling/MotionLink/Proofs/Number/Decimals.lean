import Mathlib
import MotionLink.Binary32
import MotionLink.Number.Decimal
import MotionLink.Proofs.Number.Ranks

/-!
# Values of decimals and of 32-bit patterns

A decimal has a value (`Decimal.value`), and what it is rounded to depends on
that value only. The magnitude of a 32-bit pattern is the rank of its value in
the 32-bit format (`Binary32.dyadic_quotient`). The 64-bit format has every value
of the 32-bit one (`BinaryFormat.exists_double`), so the shortest decimal for a
32-bit value is rounded, in the 64-bit format, to that value and to no other
(`Decimal.valueAt_rank_shortest`).
-/

namespace MotionLink

namespace Decimal

/-- The value of a decimal, with an exponent of either sign. -/
def value (d : Decimal) : ℚ := d.significand * 10 ^ d.exponent

theorem ratio_snd_pos (d : Decimal) : 0 < d.ratio.2 := by
  unfold ratio
  split
  · exact one_pos
  · exact Nat.pow_pos (by decide)

theorem ratio_quotient (d : Decimal) : (d.ratio.1 : ℚ) / d.ratio.2 = d.value := by
  obtain ⟨significand, exponent⟩ := d
  simp only [ratio, value, Nat.pow_eq]
  split
  · rename_i nonneg
    obtain ⟨k, rfl⟩ := Int.eq_ofNat_of_zero_le nonneg
    simp
  · rename_i negative
    obtain ⟨k, rfl⟩ : ∃ k : Nat, exponent = -k := ⟨(-exponent).toNat, by omega⟩
    simp [div_eq_mul_inv]

/-- What a decimal is rounded to depends on its value only. -/
theorem rank_congr {d e : Decimal} (same : d.value = e.value) (format : BinaryFormat) :
    d.rank format = e.rank format := by
  apply format.rank_congr d.ratio_snd_pos e.ratio_snd_pos
  rw [ratio_quotient, ratio_quotient, same]

theorem rank_eq_of_valueAt {d : Decimal} {format : BinaryFormat} {rank : Nat}
    (same : d.value = format.valueAt rank) : d.rank format = rank :=
  format.rank_eq_of_valueAt d.ratio_snd_pos (d.ratio_quotient.trans same)

/-- A fraction over a power of two is written out as a decimal exactly, since
one half is five tenths. -/
theorem value_ofDyadic (num places : Nat) : (ofDyadic num places).value = num / 2 ^ places := by
  have tens : (10 : ℚ) ^ places = 5 ^ places * 2 ^ places := by rw [← mul_pow]; norm_num
  simp only [value, ofDyadic, Nat.pow_eq, zpow_neg, zpow_natCast, tens]
  push_cast
  field_simp

end Decimal

/-- Every value of the 32-bit format is one of the 64-bit format: the
significand fits with room to spare, and the smallest place lies far below. -/
theorem BinaryFormat.exists_double (rank : Nat) :
    ∃ rank', double.valueAt rank' = single.valueAt rank := by
  obtain small | ⟨k, s, rfl, full, bounded⟩ := single.rank_cases rank
  · rw [single.valueAt_of_lt small]
    exact double.exists_valueAt (small.trans (by decide)) 925
  · rw [single.valueAt_full full bounded]
    obtain ⟨rank', same⟩ := double.exists_valueAt (bounded.trans (by decide)) (925 + k)
    refine ⟨rank', same.trans ?_⟩
    congr 2
    simp only [double, single]
    push_cast
    ring

namespace Binary32

/-- Below the first full significand, a magnitude counts the smallest values, of
which there are two to the 149th in one. -/
theorem dyadic_of_lt {x : Binary32} (small : x.magnitude < 2 ^ 23) :
    x.dyadic = (x.magnitude, 149) := by
  have field : x.magnitude / 2 ^ 23 = 0 := Nat.div_eq_of_lt small
  have fraction : x.magnitude % 2 ^ 23 = x.magnitude := Nat.mod_eq_of_lt small
  have step : Nat.pow 2 (BinaryFormat.single.precision - 1) = 2 ^ 23 := rfl
  simp only [dyadic, step, field, fraction, ↓reduceIte]

/-- Above it the fraction is the significand, over a power of two or times one,
depending on the side of the point that its last place is on. -/
theorem dyadic_full {x : Binary32} {k s : Nat} (split : x.magnitude = k * 2 ^ 23 + s)
    (full : 2 ^ 23 ≤ s) (bounded : s < 2 * 2 ^ 23) :
    x.dyadic = if k ≤ 149 then (s, 149 - k) else (s * 2 ^ (k - 149), 0) := by
  have field : x.magnitude / 2 ^ 23 = k + 1 := by omega
  have fraction : x.magnitude % 2 ^ 23 + 2 ^ 23 = s := by omega
  have step : Nat.pow 2 (BinaryFormat.single.precision - 1) = 2 ^ 23 := rfl
  simp only [dyadic, step, field, fraction, Nat.succ_ne_zero, ↓reduceIte, Nat.reduceSubDiff,
    Nat.reduceLeDiff, Nat.pow_eq]

/-- The magnitude is the rank of the value in the format. With this the bits of
a real number are reasoned about as a place in the order of values. -/
theorem dyadic_quotient (x : Binary32) :
    (x.dyadic.1 : ℚ) / 2 ^ x.dyadic.2 = BinaryFormat.single.valueAt x.magnitude := by
  obtain small | ⟨k, s, split, full, bounded⟩ := BinaryFormat.single.rank_cases x.magnitude
  · rw [BinaryFormat.single.valueAt_of_lt small, dyadic_of_lt small, div_eq_mul_inv]
    rfl
  · rw [split, BinaryFormat.single.valueAt_full full bounded, dyadic_full split full bounded]
    have smallest : BinaryFormat.single.minExponent = -149 := rfl
    split_ifs with inside
    · have place : (-149 + k : Int) = -((149 - k : Nat) : Int) := by omega
      rw [smallest, place, zpow_neg, zpow_natCast, div_eq_mul_inv]
    · have place : (-149 + k : Int) = (k - 149 : Nat) := by omega
      rw [smallest, place, zpow_natCast, pow_zero, div_one, Nat.cast_mul, Nat.cast_pow,
        Nat.cast_two]

theorem magnitude_eq_mod (x : Binary32) : x.magnitude = x.bits.toNat % 2 ^ 31 := by
  rw [magnitude, UInt32.toNat_and]
  exact Nat.and_two_pow_sub_one_eq_mod x.bits.toNat 31

theorem isNegative_iff (x : Binary32) : x.isNegative = true ↔ 2 ^ 31 ≤ x.bits.toNat := by
  have bounded := x.bits.toNat_lt
  have masked : (x.bits &&& 0x80000000).toNat = (x.bits.toNat.testBit 31).toNat * 2 ^ 31 := by
    rw [UInt32.toNat_and]
    exact Nat.and_two_pow x.bits.toNat 31
  rw [isNegative, bne_iff_ne, ne_eq, ← UInt32.toNat_inj, masked, UInt32.toNat_zero,
    Nat.mul_eq_zero, or_iff_left (by decide), Bool.toNat_eq_zero, Bool.not_eq_false,
    Nat.testBit_eq_decide_div_mod_eq, decide_eq_true_iff]
  omega

/-- A value is its sign and its magnitude, bit for bit: the two zeros differ in
the sign. -/
theorem eq_of_magnitude {x y : Binary32} (sign : x.isNegative = y.isNegative)
    (same : x.magnitude = y.magnitude) : x = y := by
  obtain ⟨a⟩ := x
  obtain ⟨b⟩ := y
  rw [Bool.eq_iff_iff, isNegative_iff, isNegative_iff] at sign
  rw [magnitude_eq_mod, magnitude_eq_mod] at same
  have := a.toNat_lt
  have := b.toNat_lt
  congr 1
  apply UInt32.toNat_inj.mp
  dsimp only at sign same
  omega

end Binary32

/-- The shortest decimal for the magnitude of a value is rounded to that
magnitude. The search only takes a decimal that is, and otherwise keeps the
value written out. -/
theorem Decimal.valueAt_rank_shortest (x : Binary32) :
    BinaryFormat.double.valueAt
      (((Decimal.ofDyadic x.dyadic.1 x.dyadic.2).shortest .double).rank .double) =
        BinaryFormat.single.valueAt x.magnitude := by
  obtain ⟨rank, same⟩ := BinaryFormat.exists_double x.magnitude
  have value : (ofDyadic x.dyadic.1 x.dyadic.2).value = BinaryFormat.double.valueAt rank := by
    rw [value_ofDyadic, x.dyadic_quotient, same]
  rw [rank_shortest, rank_eq_of_valueAt value, same]

end MotionLink

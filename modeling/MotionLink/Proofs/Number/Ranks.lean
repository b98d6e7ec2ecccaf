import Mathlib
import MotionLink.Number.Rounding

/-!
# Values of a binary format by their ranks

`BinaryFormat.valueAt` is the value a rank stands for: the field above the
lowest `precision - 1` bits gives the place, the rest the significand. Ranks
count the values in increasing order (`valueAt_strictMono`) and leave none out
(`exists_valueAt`). Rounding looks at nothing but the quotient of its two
naturals (`rank_congr`), and a quotient that is a value of the format has that
value's rank (`rank_eq_of_valueAt`).
-/

namespace MotionLink

/-! ## Quotients in units of a power of two -/

/-- Taking a quotient in other units leaves no denominator of zero behind. -/
theorem inUnits_snd_pos {num den : Nat} {exponent : Int} (positive : 0 < den) :
    0 < (inUnits num den exponent).2 := by
  unfold inUnits
  split
  · exact Nat.mul_pos positive (Nat.pow_pos two_pos)
  · exact positive

/-- In units of a power of two a quotient is that much smaller. The power may be
of a negative exponent; then it is the numerator that is scaled. -/
theorem inUnits_quotient (num den : Nat) (exponent : Int) :
    ((inUnits num den exponent).1 : ℚ) / (inUnits num den exponent).2 =
      num / den / 2 ^ exponent := by
  unfold inUnits
  split
  · rename_i nonneg
    obtain ⟨k, rfl⟩ := Int.eq_ofNat_of_zero_le nonneg
    simp only [Int.toNat_natCast, Nat.pow_eq, Nat.cast_mul, Nat.cast_pow, Nat.cast_ofNat,
      zpow_natCast]
    rw [div_div]
  · rename_i negative
    obtain ⟨k, rfl⟩ : ∃ k : Nat, exponent = -k := ⟨(-exponent).toNat, by omega⟩
    simp only [neg_neg, Int.toNat_natCast, Nat.pow_eq, Nat.cast_mul, Nat.cast_pow, Nat.cast_ofNat,
      zpow_neg, zpow_natCast, div_inv_eq_mul]
    rw [mul_div_right_comm]

/-- Comparing in units of a power of two compares with that power. -/
theorem inUnits_lt_iff {num den : Nat} {exponent : Int} (positive : 0 < den) :
    (inUnits num den exponent).1 < (inUnits num den exponent).2 ↔
      (num : ℚ) / den < 2 ^ exponent := by
  have below : (0 : ℚ) < (inUnits num den exponent).2 := by exact_mod_cast inUnits_snd_pos positive
  rw [← div_lt_one (zpow_pos (two_pos : (0 : ℚ) < 2) exponent), ← inUnits_quotient,
    div_lt_one below, Nat.cast_lt]

/-! ## The binary exponent -/

/-- A quotient lies within a factor of two of the quotient of the highest powers
of two in its parts. -/
theorem quotient_between {num den : Nat} (above : 0 < num) (below : 0 < den) :
    (2 : ℚ) ^ ((num.log2 : Int) - den.log2 - 1) ≤ num / den ∧
      (num : ℚ) / den < 2 ^ ((num.log2 : Int) - den.log2 + 1) := by
  have numLow : (2 : ℚ) ^ (num.log2 : Int) ≤ num := by
    rw [zpow_natCast]
    exact_mod_cast Nat.log2_self_le above.ne'
  have numHigh : (num : ℚ) < 2 ^ ((num.log2 : Int) + 1) := by
    exact_mod_cast (Nat.lt_log2_self : num < 2 ^ (num.log2 + 1))
  have denLow : (2 : ℚ) ^ (den.log2 : Int) ≤ den := by
    rw [zpow_natCast]
    exact_mod_cast Nat.log2_self_le below.ne'
  have denHigh : (den : ℚ) < 2 ^ ((den.log2 : Int) + 1) := by
    exact_mod_cast (Nat.lt_log2_self : den < 2 ^ (den.log2 + 1))
  have positive : (0 : ℚ) < den := by exact_mod_cast below
  constructor
  · rw [le_div_iff₀ positive]
    calc (2 : ℚ) ^ ((num.log2 : Int) - den.log2 - 1) * den
        ≤ 2 ^ ((num.log2 : Int) - den.log2 - 1) * 2 ^ ((den.log2 : Int) + 1) := by gcongr
      _ = 2 ^ (num.log2 : Int) := by rw [← zpow_add₀ two_ne_zero]; congr 1; ring
      _ ≤ num := numLow
  · rw [div_lt_iff₀ positive]
    calc (num : ℚ) < 2 ^ ((num.log2 : Int) + 1) := numHigh
      _ = 2 ^ ((num.log2 : Int) - den.log2 + 1) * 2 ^ (den.log2 : Int) := by
        rw [← zpow_add₀ two_ne_zero]; congr 1; ring
      _ ≤ 2 ^ ((num.log2 : Int) - den.log2 + 1) * den := by gcongr

/-- A number between two neighbouring powers of two has the exponent of the
lower one as its logarithm, rounded down. -/
theorem log_two_eq {x : ℚ} {e : Int} (low : (2 : ℚ) ^ e ≤ x) (high : x < 2 ^ (e + 1)) :
    Int.log 2 x = e := by
  have positive : 0 < x := (zpow_pos two_pos e).trans_le low
  rw [← Nat.cast_two] at low high
  have below := (Int.zpow_le_iff_le_log one_lt_two positive).mp low
  have above := (Int.lt_zpow_iff_log_lt one_lt_two positive).mp high
  omega

/-- The exponent that is found by comparing lengths, with one step of
correction, is the logarithm of the quotient. -/
theorem binaryExponent_eq_log {num den : Nat} (above : 0 < num) (below : 0 < den) :
    binaryExponent num den = Int.log 2 ((num : ℚ) / den) := by
  obtain ⟨low, high⟩ := quotient_between above below
  simp only [binaryExponent, inUnits_lt_iff below]
  split
  · rename_i less
    rw [log_two_eq low (by rwa [sub_add_cancel])]
  · rename_i notLess
    rw [log_two_eq (not_lt.mp notLess) high]

/-! ## Rounding to an integer -/

/-- A common factor does not change what a quotient is rounded to: neither the
whole part nor the comparison of the rest with one half sees it. -/
theorem roundQuotient_mul_left {factor : Nat} (positive : 0 < factor) (num den : Nat) :
    roundQuotient (factor * num) (factor * den) = roundQuotient num den := by
  have above : factor * den < 2 * (factor * (num % den)) ↔ den < 2 * (num % den) := by
    rw [mul_left_comm, Nat.mul_lt_mul_left positive]
  have tie : factor * den = 2 * (factor * (num % den)) ↔ den = 2 * (num % den) := by
    rw [mul_left_comm, Nat.mul_right_inj positive.ne']
  simp only [roundQuotient, Nat.mul_div_mul_left _ _ positive, Nat.mul_mod_mul_left, above, tie]

/-- Rounding depends on the quotient only. Two pairs with one quotient are
brought to a common denominator, and the factors are taken out again. -/
theorem roundQuotient_congr {num den num' den' : Nat} (positive : 0 < den) (positive' : 0 < den')
    (same : (num : ℚ) / den = num' / den') : roundQuotient num den = roundQuotient num' den' := by
  have cross : den' * num = den * num' := by
    rw [div_eq_div_iff (by exact_mod_cast positive.ne') (by exact_mod_cast positive'.ne')] at same
    have : num * den' = num' * den := by exact_mod_cast same
    rw [mul_comm den', this, mul_comm]
  rw [← roundQuotient_mul_left positive', cross, mul_comm den' den, roundQuotient_mul_left positive]

theorem roundQuotient_one (n : Nat) : roundQuotient n 1 = n := by
  simp [roundQuotient, Nat.mod_one]

namespace BinaryFormat

variable (format : BinaryFormat)

/-! ## Rounding to the format -/

/-- The last place of a quotient lies as far below its exponent as the precision
asks, but never below the smallest place of the format. -/
theorem lastPlace_eq {num den : Nat} (above : 0 < num) (below : 0 < den) :
    format.lastPlace num den =
      max (Int.log 2 ((num : ℚ) / den) - (format.precision - 1 : Nat)) format.minExponent := by
  rw [lastPlace, binaryExponent_eq_log above below]

/-- The rank of a quotient depends on the quotient only, since the last place
and the rounding do. -/
theorem rank_congr {num den num' den' : Nat} (positive : 0 < den) (positive' : 0 < den')
    (same : (num : ℚ) / den = num' / den') : format.rank num den = format.rank num' den' := by
  have zero : num = 0 ↔ num' = 0 := by
    have vanish {n d : Nat} (positive : 0 < d) : (n : ℚ) / d = 0 ↔ n = 0 := by
      rw [div_eq_zero_iff, Nat.cast_eq_zero, Nat.cast_eq_zero, or_iff_left positive.ne']
    rw [← vanish positive, ← vanish positive', same]
  unfold rank
  split
  · rename_i none
    rw [if_pos (zero.mp none)]
  · rename_i some
    rw [if_neg (mt zero.mpr some)]
    have place : format.lastPlace num den = format.lastPlace num' den' := by
      rw [format.lastPlace_eq (Nat.pos_of_ne_zero some) positive,
        format.lastPlace_eq (Nat.pos_of_ne_zero (mt zero.mpr some)) positive', same]
    have units (exponent : Int) :
        roundQuotient (inUnits num den exponent).1 (inUnits num den exponent).2 =
          roundQuotient (inUnits num' den' exponent).1 (inUnits num' den' exponent).2 := by
      apply roundQuotient_congr (inUnits_snd_pos positive) (inUnits_snd_pos positive')
      rw [inUnits_quotient, inUnits_quotient, same]
    simp only [place, units]

/-! ## The value of a rank -/

/-- The value of a rank: in the lowest field the multiples of the smallest
value, and above it a full significand at the place that the field gives. -/
def valueAt (rank : Nat) : ℚ :=
  let step := 2 ^ (format.precision - 1)
  if rank / step = 0 then (rank % step : Nat) * 2 ^ format.minExponent
  else (step + rank % step : Nat) * 2 ^ (format.minExponent + (rank / step - 1 : Nat))

/-- Ranks below the first full significand are the multiples of the smallest value. -/
theorem valueAt_of_lt {s : Nat} (small : s < 2 ^ (format.precision - 1)) :
    format.valueAt s = s * 2 ^ format.minExponent := by
  rw [valueAt, Nat.div_eq_of_lt small, Nat.mod_eq_of_lt small, if_pos rfl]

/-- Each place has as many ranks as there are full significands, so that the
rank of a significand at a place is known from both. -/
theorem valueAt_full {s : Nat} (full : 2 ^ (format.precision - 1) ≤ s)
    (bounded : s < 2 * 2 ^ (format.precision - 1)) (k : Nat) :
    format.valueAt (k * 2 ^ (format.precision - 1) + s) = s * 2 ^ (format.minExponent + k) := by
  obtain ⟨fraction, rfl⟩ := Nat.exists_eq_add_of_le full
  have small : fraction < 2 ^ (format.precision - 1) := by omega
  have split : k * 2 ^ (format.precision - 1) + (2 ^ (format.precision - 1) + fraction) =
      fraction + 2 ^ (format.precision - 1) * (k + 1) := by ring
  have positive : 0 < 2 ^ (format.precision - 1) := Nat.pow_pos two_pos
  rw [split, valueAt, Nat.add_mul_div_left _ _ positive, Nat.add_mul_mod_self_left,
    Nat.div_eq_of_lt small, Nat.mod_eq_of_lt small, zero_add, if_neg (Nat.succ_ne_zero k),
    Nat.add_sub_cancel]

/-- Every rank is of one of the two sorts, so that statements about values are
shown for the lowest ranks and for the full significands. -/
theorem rank_cases (rank : Nat) :
    rank < 2 ^ (format.precision - 1) ∨ ∃ k s, rank = k * 2 ^ (format.precision - 1) + s ∧
      2 ^ (format.precision - 1) ≤ s ∧ s < 2 * 2 ^ (format.precision - 1) := by
  have positive : 0 < 2 ^ (format.precision - 1) := Nat.pow_pos two_pos
  generalize 2 ^ (format.precision - 1) = step at positive ⊢
  by_cases small : rank < step
  · exact .inl small
  · refine .inr ⟨rank / step - 1, step + rank % step, ?_, Nat.le_add_right .., ?_⟩
    · have one : 1 ≤ rank / step := (Nat.one_le_div_iff positive).mpr (not_lt.mp small)
      calc rank = step * (rank / step) + rank % step := (Nat.div_add_mod rank step).symm
        _ = (rank / step - 1 + 1) * step + rank % step := by rw [Nat.sub_add_cancel one, mul_comm]
        _ = (rank / step - 1) * step + (step + rank % step) := by ring
    · have := Nat.mod_lt rank positive
      omega

/-- The value of the next rank is one last place further, also where a field
ends and the next one starts at twice the place. -/
theorem valueAt_succ (rank : Nat) :
    ∃ place : Int, format.valueAt (rank + 1) = format.valueAt rank + 2 ^ place := by
  obtain small | ⟨k, s, rfl, full, bounded⟩ := format.rank_cases rank
  · refine ⟨format.minExponent, ?_⟩
    rw [format.valueAt_of_lt small]
    by_cases last : rank + 1 < 2 ^ (format.precision - 1)
    · rw [format.valueAt_of_lt last]
      push_cast
      ring
    · have full : 2 ^ (format.precision - 1) ≤ rank + 1 := not_lt.mp last
      have first := format.valueAt_full full (by omega) 0
      rw [zero_mul, zero_add] at first
      rw [first, Nat.cast_zero, add_zero, Nat.cast_add_one, add_one_mul]
  · refine ⟨format.minExponent + k, ?_⟩
    rw [format.valueAt_full full bounded]
    by_cases last : s + 1 < 2 * 2 ^ (format.precision - 1)
    · rw [add_assoc, format.valueAt_full (Nat.le_succ_of_le full) last]
      push_cast
      ring
    · -- the significand overflows into the next place, where it is half as large
      have carry : k * 2 ^ (format.precision - 1) + s + 1 =
          (k + 1) * 2 ^ (format.precision - 1) + 2 ^ (format.precision - 1) := by
        rw [add_assoc, show s + 1 = 2 * 2 ^ (format.precision - 1) by omega]
        ring
      have half : (s : ℚ) + 1 = 2 * 2 ^ (format.precision - 1) := by
        exact_mod_cast (by omega : s + 1 = 2 * 2 ^ (format.precision - 1))
      have positive : 0 < 2 ^ (format.precision - 1) := Nat.pow_pos two_pos
      rw [carry, format.valueAt_full le_rfl (by omega), ← add_one_mul, half]
      push_cast
      rw [← add_assoc, zpow_add_one₀ two_ne_zero]
      ring

/-- Ranks count the values in increasing order, because each step between
neighbours is a power of two and hence positive. -/
theorem valueAt_strictMono : StrictMono format.valueAt := by
  refine strictMono_nat_of_lt_succ fun rank => ?_
  obtain ⟨place, next⟩ := format.valueAt_succ rank
  rw [next]
  exact lt_add_of_pos_right _ (zpow_pos two_pos place)

@[simp] theorem valueAt_zero : format.valueAt 0 = 0 := by
  rw [format.valueAt_of_lt (Nat.pow_pos two_pos), Nat.cast_zero, zero_mul]

/-- No value is left out: a significand that fits the precision, at a place the
format has, makes the value of some rank. -/
theorem exists_valueAt {s : Nat} (fits : s < 2 * 2 ^ (format.precision - 1)) (k : Nat) :
    ∃ rank, format.valueAt rank = s * 2 ^ (format.minExponent + k) := by
  induction k generalizing s with
  | zero =>
    by_cases full : 2 ^ (format.precision - 1) ≤ s
    · exact ⟨_, format.valueAt_full full fits 0⟩
    · refine ⟨s, ?_⟩
      rw [format.valueAt_of_lt (not_le.mp full), Nat.cast_zero, add_zero]
  | succ k ih =>
    by_cases full : 2 ^ (format.precision - 1) ≤ s
    · exact ⟨_, format.valueAt_full full fits (k + 1)⟩
    · -- a significand with room at the top is moved up by one bit
      obtain ⟨rank, same⟩ := @ih (2 * s) (by omega)
      refine ⟨rank, ?_⟩
      rw [same]
      push_cast
      rw [← add_assoc, zpow_add_one₀ two_ne_zero]
      ring

section Exact

variable {num den s k : Nat} (above : 0 < num) (below : 0 < den)

include above below

/-- Around a quotient with a full significand the last place is that of the
significand: its logarithm lies as far above it as the precision asks. -/
theorem lastPlace_of_full (full : 2 ^ (format.precision - 1) ≤ s)
    (bounded : s < 2 * 2 ^ (format.precision - 1))
    (same : (num : ℚ) / den = s * 2 ^ (format.minExponent + k)) :
    format.lastPlace num den = format.minExponent + k := by
  have log : Int.log 2 ((num : ℚ) / den) =
      ((format.precision - 1 : Nat) : Int) + (format.minExponent + k) := by
    apply log_two_eq
    · rw [same, zpow_add₀ two_ne_zero, zpow_natCast]
      gcongr
      exact_mod_cast full
    · rw [same, add_right_comm, zpow_add₀ two_ne_zero (_ + 1), zpow_add_one₀ two_ne_zero,
        zpow_natCast]
      gcongr
      exact_mod_cast bounded.trans_eq (mul_comm ..)
  rw [format.lastPlace_eq above below, log, add_sub_cancel_left, max_eq_left (by omega)]

/-- Around a quotient below the first full significand the last place is the
smallest, since the format has no smaller one. -/
theorem lastPlace_of_lt (small : s < 2 ^ (format.precision - 1))
    (same : (num : ℚ) / den = s * 2 ^ format.minExponent) :
    format.lastPlace num den = format.minExponent := by
  have positive : (0 : ℚ) < num / den := div_pos (by exact_mod_cast above) (by exact_mod_cast below)
  have limit : (num : ℚ) / den <
      (2 : Nat) ^ (((format.precision - 1 : Nat) : Int) + format.minExponent) := by
    rw [same, Nat.cast_ofNat, zpow_add₀ two_ne_zero, zpow_natCast]
    gcongr
    exact_mod_cast small
  have log := (Int.lt_zpow_iff_log_lt one_lt_two positive).mp limit
  rw [format.lastPlace_eq above below, max_eq_right (by omega)]

/-- A whole number of last places needs no rounding, and its rank is put
together from the place and the number. -/
theorem rank_of_lastPlace (place : format.lastPlace num den = format.minExponent + k)
    (same : (num : ℚ) / den = s * 2 ^ (format.minExponent + k)) :
    format.rank num den = k * 2 ^ (format.precision - 1) + s := by
  have units := inUnits_quotient num den (format.minExponent + k)
  rw [same, mul_div_cancel_right₀ _ (zpow_ne_zero _ two_ne_zero), ← div_one (s : ℚ),
    ← Nat.cast_one] at units
  have rounded := roundQuotient_congr (inUnits_snd_pos below) one_pos units
  simp only [rank, above.ne', ↓reduceIte, place, rounded, roundQuotient_one, add_sub_cancel_left,
    Int.toNat_natCast, Nat.pow_eq]

end Exact

/-- A quotient that is a value of the format has its rank: values are not moved
by rounding. -/
theorem rank_eq_of_valueAt {num den rank : Nat} (positive : 0 < den)
    (same : (num : ℚ) / den = format.valueAt rank) : format.rank num den = rank := by
  obtain rfl | above := Nat.eq_zero_or_pos num
  · rw [Nat.cast_zero, zero_div, ← format.valueAt_zero] at same
    exact format.valueAt_strictMono.injective same
  · obtain small | ⟨k, s, rfl, full, bounded⟩ := format.rank_cases rank
    · rw [format.valueAt_of_lt small] at same
      have place := format.lastPlace_of_lt above positive small same
      rw [← add_zero format.minExponent, ← Nat.cast_zero] at same place
      rw [format.rank_of_lastPlace above positive place same, zero_mul, zero_add]
    · rw [format.valueAt_full full bounded] at same
      exact format.rank_of_lastPlace above positive
        (format.lastPlace_of_full above positive full bounded same) same

end BinaryFormat

end MotionLink

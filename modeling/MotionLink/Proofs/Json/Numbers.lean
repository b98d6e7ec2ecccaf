import Mathlib
import MotionLink.Argument.Real
import MotionLink.Json.Real
import MotionLink.Proofs.Number.Decimals
import MotionLink.Proofs.Text.Denotation

/-!
# Numbers read back

The text of a number in JSON is read back by the reader of real arguments: a
decimal comes back with its value (`Json.exists_decimal?`), whether it is written
positionally or with an exponent, and the text of a 32-bit value with a decimal
that the 64-bit format rounds to that very value. Two 32-bit values with one text
are therefore the same bits (`Json.realText_injective`).
-/

namespace MotionLink

namespace Argument

/-- A text is the part of a decimal from its point on: nothing, or the point and
the digits after it. -/
def Points (fraction text : List Char) : Prop :=
  (fraction = [] ∧ text = []) ∨ text = '.' :: fraction

/-- A text scales a decimal by a power of ten: nothing, or the mark and the exponent. -/
def Scales (exponent : Int) (text : List Char) : Prop :=
  (exponent = 0 ∧ text = []) ∨ ∃ rest, text = 'e' :: rest ∧ exponent? rest = some exponent

/-- A decimal is read from its digits, its point and its scale. The writers
below differ in where the point is and in whether there is a scale, so each of
them is read by this. -/
theorem decimal?_eq_some (whole fraction : List Char) {point scale : List Char} {exponent : Int}
    (filled : whole ++ fraction ≠ []) (decimal : ∀ c ∈ whole ++ fraction, c.isDigit = true)
    (points : Points fraction point) (scales : Scales exponent scale) :
    decimal? (whole ++ (point ++ scale)) =
      some ⟨Nat.ofDigitChars 10 (whole ++ fraction) 0, exponent - fraction.length⟩ := by
  have significand := Numeral.value?_decimal filled decimal
  obtain ⟨wholeDigits, fractionDigits⟩ := List.forall_mem_append.mp decimal
  have scaleHead : ∀ c ∈ scale.head?, c.isDigit = false := by
    obtain ⟨-, rfl⟩ | ⟨rest, rfl, -⟩ := scales
    · exact nofun
    · rintro c ⟨⟩
      rfl
  -- Without a point one run of digits is taken, with a point two; neither goes on behind its end.
  obtain ⟨rfl, rfl⟩ | rfl := points
  · obtain ⟨taken, left⟩ := run_ends wholeDigits scaleHead
    rw [List.append_nil] at significand
    rw [List.nil_append, decimal?, taken, left]
    obtain ⟨rfl, rfl⟩ | ⟨rest, rfl, read⟩ := scales
    · simp [significand]
    · have mark : lowerLetter 'e' = 'e' := rfl
      simp [significand, read, mark]
  · have pointHead : ∀ c ∈ ('.' :: (fraction ++ scale)).head?, c.isDigit = false := by
      rintro c ⟨⟩
      rfl
    obtain ⟨taken, left⟩ := run_ends wholeDigits pointHead
    obtain ⟨taken', left'⟩ := run_ends fractionDigits scaleHead
    rw [List.cons_append, decimal?, taken, left]
    simp only [taken', left']
    obtain ⟨rfl, rfl⟩ | ⟨rest, rfl, read⟩ := scales
    · simp [significand]
    · have mark : lowerLetter 'e' = 'e' := rfl
      simp [significand, read, mark]

/-- A minus sign is not part of a decimal; the sign of a number is read before
it. -/
theorem decimal?_minus (rest : List Char) : decimal? ('-' :: rest) = none := rfl

end Argument

namespace Json

open Argument

theorem digits_ne_nil (d : Decimal) : d.digits ≠ [] := Nat.toDigits_ne_nil

theorem isDigit_of_mem_digits (d : Decimal) : ∀ c ∈ d.digits, c.isDigit = true :=
  fun _ mem => Nat.isDigit_of_mem_toDigits (by decide) (by decide) mem

theorem ofDigitChars_digits (d : Decimal) : Nat.ofDigitChars 10 d.digits 0 = d.significand :=
  Nat.ofDigitChars_ten_toDigits

theorem isDigit_of_mem_zeros (n : Nat) : ∀ c ∈ List.replicate n '0', c.isDigit = true := by
  intro c mem
  rw [List.eq_of_mem_replicate mem]
  rfl

section Positional

variable (d : Decimal)

/-- Zeros between the point and the digits leave the decimal as it is: they add
to the digits behind the point and nothing to the significand. -/
theorem decimal?_front (front : (d.digits.length : Int) + d.exponent ≤ 0) :
    decimal? ('0' :: '.' :: (List.replicate (-(d.digits.length + d.exponent)).toNat '0' ++
      d.digits)) = some d := by
  set zeros := List.replicate (-(d.digits.length + d.exponent)).toNat '0' with hzeros
  have decimal : ∀ c ∈ ['0'] ++ (zeros ++ d.digits), c.isDigit = true :=
    List.forall_mem_append.mpr ⟨isDigit_of_mem_zeros 1,
      List.forall_mem_append.mpr ⟨isDigit_of_mem_zeros _, isDigit_of_mem_digits d⟩⟩
  have read := decimal?_eq_some ['0'] (zeros ++ d.digits) (List.cons_ne_nil _ _) decimal
    (.inr rfl) (.inl ⟨rfl, rfl⟩)
  have significand : Nat.ofDigitChars 10 (['0'] ++ (zeros ++ d.digits)) 0 = d.significand := by
    rw [Nat.ofDigitChars_append, Nat.ofDigitChars_append, hzeros, Nat.ofDigitChars_replicate_zero]
    exact ofDigitChars_digits d
  have exponent : (0 : Int) - (zeros ++ d.digits).length = d.exponent := by
    rw [List.length_append, hzeros, List.length_replicate]
    omega
  rw [significand, exponent, List.append_nil] at read
  exact read

/-- A point between two digits leaves the decimal as it is. -/
theorem decimal?_inside {point : Nat} (inside : (d.digits.length : Int) + d.exponent = point)
    (short : point < d.digits.length) :
    decimal? (d.digits.take point ++ '.' :: d.digits.drop point) = some d := by
  have read := decimal?_eq_some (d.digits.take point) (d.digits.drop point)
    (by rw [List.take_append_drop]; exact digits_ne_nil d)
    (by rw [List.take_append_drop]; exact isDigit_of_mem_digits d) (.inr rfl) (.inl ⟨rfl, rfl⟩)
  have exponent : (0 : Int) - (d.digits.drop point).length = d.exponent := by
    rw [List.length_drop]
    omega
  rw [List.take_append_drop, ofDigitChars_digits, exponent, List.append_nil] at read
  exact read

/-- Zeros between the digits and the point, and one behind it, keep the value of
the decimal. What is read has more digits and a smaller exponent, so it is the
value that comes back and not the decimal. -/
theorem exists_decimal?_behind {n : Nat} (whole : d.exponent = n) :
    ∃ e, decimal? (d.digits ++ List.replicate n '0' ++ ['.', '0']) = some e ∧
      e.value = d.value := by
  have decimal : ∀ c ∈ d.digits ++ List.replicate n '0' ++ ['0'], c.isDigit = true :=
    List.forall_mem_append.mpr ⟨List.forall_mem_append.mpr
      ⟨isDigit_of_mem_digits d, isDigit_of_mem_zeros _⟩, isDigit_of_mem_zeros 1⟩
  have read := decimal?_eq_some (d.digits ++ List.replicate n '0') ['0'] (by simp) decimal
    (.inr rfl) (.inl ⟨rfl, rfl⟩)
  refine ⟨_, read, ?_⟩
  have significand : Nat.ofDigitChars 10 (d.digits ++ List.replicate n '0' ++ ['0']) 0 =
      10 * (10 ^ n * d.significand) := by
    rw [Nat.ofDigitChars_append, Nat.ofDigitChars_append, ofDigitChars_digits,
      Nat.ofDigitChars_replicate_zero]
    rfl
  rw [Decimal.value, Decimal.value, significand, whole, zpow_natCast]
  simp only [List.length_singleton, Nat.cast_one, zero_sub, zpow_neg_one]
  push_cast
  ring

/-- A decimal written positionally is read back with its value: the point is in
front of the digits, among them, or behind them. -/
theorem exists_decimal?_positional :
    ∃ e, decimal? (positional d.digits (d.digits.length + d.exponent)) = some e ∧
      e.value = d.value := by
  unfold positional
  split
  · rename_i front
    exact ⟨d, decimal?_front d front, rfl⟩
  · rename_i notFront
    split
    · rename_i short
      exact ⟨d, decimal?_inside d (by omega) (by omega), rfl⟩
    · obtain ⟨n, whole⟩ : ∃ n : Nat, d.exponent = n := ⟨d.exponent.toNat, by omega⟩
      have behind : (d.digits.length + d.exponent).toNat - d.digits.length = n := by omega
      rw [behind]
      exact exists_decimal?_behind d whole

end Positional

/-- An exponent is read back with its sign, which is written in either case. -/
theorem exponent?_signed (e : Int) :
    exponent? ((if e < 0 then '-' else '+') :: Nat.toDigits 10 e.natAbs) = some e := by
  have read : Numeral.value? 10 (Nat.toDigits 10 e.natAbs) = some e.natAbs := by
    rw [Numeral.value?_decimal Nat.toDigits_ne_nil fun _ mem =>
      Nat.isDigit_of_mem_toDigits (by decide) (by decide) mem, Nat.ofDigitChars_ten_toDigits]
  split
  · rw [exponent?, read]
    exact congrArg some (by omega : -(e.natAbs : Int) = e)
  · rw [exponent?, Numeral.dropPlus, read]
    · exact congrArg some (by omega : (e.natAbs : Int) = e)
    · exact nofun

/-- A decimal written with an exponent is read back as it is. The point stands
behind the first digit, and the exponent makes up for the digits that are behind
it. -/
theorem decimal?_scientific (d : Decimal) :
    decimal? (scientific d.digits (d.digits.length + d.exponent - 1)) = some d := by
  have points : Points (d.digits.drop 1)
      (if d.digits.length ≤ 1 then [] else '.' :: d.digits.drop 1) := by
    split
    · rename_i single
      exact .inl ⟨List.drop_eq_nil_of_le single, rfl⟩
    · exact .inr rfl
  have read := decimal?_eq_some (d.digits.take 1) (d.digits.drop 1)
    (by rw [List.take_append_drop]; exact digits_ne_nil d)
    (by rw [List.take_append_drop]; exact isDigit_of_mem_digits d) points
    (.inr ⟨_, rfl, exponent?_signed (d.digits.length + d.exponent - 1)⟩)
  have filled := List.length_pos_iff.mpr (digits_ne_nil d)
  have exponent : (d.digits.length + d.exponent - 1 : Int) - (d.digits.drop 1).length =
      d.exponent := by
    rw [List.length_drop]
    omega
  rw [List.take_append_drop, ofDigitChars_digits, exponent] at read
  rw [scientific, List.append_assoc]
  exact read

/-- A decimal is read back with its value, whichever of the two notations its
exponent calls for. -/
theorem exists_decimal? (d : Decimal) :
    ∃ e, decimal? (decimalText d) = some e ∧ e.value = d.value := by
  unfold decimalText
  dsimp only
  split
  · exact exists_decimal?_positional d
  · exact ⟨d, decimal?_scientific d, rfl⟩

/-- The text of a magnitude is read back as a decimal that the 64-bit format
rounds to that magnitude. -/
theorem exists_decimal?_magnitudeText (x : Binary32) :
    ∃ d, decimal? (magnitudeText x) = some d ∧
      BinaryFormat.double.valueAt (d.rank .double) = BinaryFormat.single.valueAt x.magnitude := by
  unfold magnitudeText
  split
  · rename_i zero
    have value : (⟨0, -1⟩ : Decimal).value = BinaryFormat.double.valueAt 0 := by
      rw [BinaryFormat.valueAt_zero, Decimal.value, Nat.cast_zero, zero_mul]
    refine ⟨⟨0, -1⟩, rfl, ?_⟩
    rw [Decimal.rank_eq_of_valueAt value, zero, BinaryFormat.valueAt_zero,
      BinaryFormat.valueAt_zero]
  · obtain ⟨d, read, same⟩ :=
      exists_decimal? ((Decimal.ofDyadic x.dyadic.1 x.dyadic.2).shortest .double)
    refine ⟨d, read, ?_⟩
    rw [Decimal.rank_congr same, Decimal.valueAt_rank_shortest]

/-- The text of a magnitude tells it: what is read back from one text is one
decimal, and it is rounded to both magnitudes. -/
theorem magnitude_of_magnitudeText {x y : Binary32} (same : magnitudeText x = magnitudeText y) :
    x.magnitude = y.magnitude := by
  obtain ⟨d, read, value⟩ := exists_decimal?_magnitudeText x
  obtain ⟨e, read', value'⟩ := exists_decimal?_magnitudeText y
  rw [same, read'] at read
  cases read
  exact BinaryFormat.single.valueAt_strictMono.injective (value.symm.trans value')

/-- A magnitude is not written with a sign, so that a sign in front is the sign
of the value. -/
theorem magnitudeText_ne_minus (x : Binary32) (rest : List Char) :
    magnitudeText x ≠ '-' :: rest := by
  intro same
  obtain ⟨d, read, -⟩ := exists_decimal?_magnitudeText x
  rw [same, decimal?_minus] at read
  cases read

/-- Values with one text are the same, bit for bit. A sign in front tells the
sign, and the rest the magnitude. -/
theorem realText_injective : Function.Injective realText := by
  intro x y same
  cases hx : x.isNegative <;> cases hy : y.isNegative <;>
    simp only [realText, hx, hy, ↓reduceIte, Bool.false_eq_true] at same
  · exact Binary32.eq_of_magnitude (hx.trans hy.symm) (magnitude_of_magnitudeText same)
  · exact absurd same (magnitudeText_ne_minus x _)
  · exact absurd same.symm (magnitudeText_ne_minus y _)
  · exact Binary32.eq_of_magnitude (hx.trans hy.symm)
      (magnitude_of_magnitudeText (List.cons.inj same).2)

/-- The value nearest to a tenth is written with the digits that tell it in the 64-bit format. -/
example : realText ⟨0x3DCCCCCD⟩ = "0.10000000149011612".toList := by decide +kernel

end Json

end MotionLink

/-!
# Rounding a ratio to a binary floating-point format

The nonnegative finite values of a binary format, in increasing order from
zero, are counted by their *rank*. `BinaryFormat.rank` rounds a ratio of
naturals to the nearest value of the format, a tie going to the value with an
even significand, and answers its rank. Ranks past the largest finite value go
on in the same pattern as if the exponent were unbounded, so a caller that has
a largest value compares ranks.

The rank of a value with significand `m` and exponent `q` is
`(q - minExponent) · 2 ^ (precision - 1) + m`: consecutive values have
consecutive ranks, across a change of exponent too.
-/

namespace MotionLink

/-- A binary format: bits of the significand and the smallest exponent of its
last place. -/
structure BinaryFormat where
  precision : Nat
  minExponent : Int

/-- The 32-bit interchange format. -/
def BinaryFormat.single : BinaryFormat := ⟨24, -149⟩

/-- The 64-bit interchange format. -/
def BinaryFormat.double : BinaryFormat := ⟨53, -1074⟩

/-- The integer nearest to `num / den`, a tie going to the even one. -/
def roundQuotient (num den : Nat) : Nat :=
  let floor := num / den
  let rest := num % den
  if den < 2 * rest ∨ (den = 2 * rest ∧ floor % 2 = 1) then floor + 1 else floor

/-- Numerator and denominator of `num / den` in units of `2 ^ exponent`. -/
def inUnits (num den : Nat) (exponent : Int) : Nat × Nat :=
  if 0 ≤ exponent then (num, den * Nat.pow 2 exponent.toNat)
  else (num * Nat.pow 2 (-exponent).toNat, den)

/-- The exponent `e` with `2 ^ e ≤ num / den < 2 ^ (e + 1)`, for positive `num` and `den`. -/
def binaryExponent (num den : Nat) : Int :=
  let guess : Int := (num.log2 : Int) - den.log2
  let (num', den') := inUnits num den guess
  if num' < den' then guess - 1 else guess

namespace BinaryFormat

/-- The exponent of the last place of values around `num / den`. -/
def lastPlace (format : BinaryFormat) (num den : Nat) : Int :=
  max (binaryExponent num den - (format.precision - 1 : Nat)) format.minExponent

/-- The rank of the value nearest to `num / den`. -/
def rank (format : BinaryFormat) (num den : Nat) : Nat :=
  if num = 0 then 0
  else
    let place := format.lastPlace num den
    let (num', den') := inUnits num den place
    (place - format.minExponent).toNat * Nat.pow 2 (format.precision - 1) + roundQuotient num' den'

end BinaryFormat

end MotionLink

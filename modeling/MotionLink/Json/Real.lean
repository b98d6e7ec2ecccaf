import MotionLink.Binary32
import MotionLink.Number.Decimal

/-!
# Real numbers in JSON

A finite 32-bit value is written with the fewest digits that read back as the
same value in the 64-bit format. Magnitudes from `10⁻⁵` up to `10¹⁶` are written
positionally with at least one digit after the point, others with a signed
exponent; a zero keeps its sign.
-/

namespace MotionLink.Json

/-- Digits with a point after the first `point` of them. -/
def positional (digits : List Char) (point : Int) : List Char :=
  if point ≤ 0 then '0' :: '.' :: (List.replicate (-point).toNat '0' ++ digits)
  else if point < digits.length then
    digits.take point.toNat ++ '.' :: digits.drop point.toNat
  else digits ++ List.replicate (point.toNat - digits.length) '0' ++ ['.', '0']

/-- Digits with a point after the first of them, times ten to an exponent. -/
def scientific (digits : List Char) (exponent : Int) : List Char :=
  let fraction := if digits.length ≤ 1 then [] else '.' :: digits.drop 1
  let sign := if exponent < 0 then '-' else '+'
  digits.take 1 ++ fraction ++ 'e' :: sign :: Nat.toDigits 10 exponent.natAbs

/-- The text of a positive decimal. -/
def decimalText (d : Decimal) : List Char :=
  let point : Int := d.digits.length + d.exponent
  if -5 < point ∧ point ≤ 16 then positional d.digits point else scientific d.digits (point - 1)

/-- The text of the magnitude of a finite value. -/
def magnitudeText (x : Binary32) : List Char :=
  if x.magnitude = 0 then ['0', '.', '0']
  else
    let (num, places) := x.dyadic
    decimalText ((Decimal.ofDyadic num places).shortest .double)

/-- The text of a finite value. -/
def realText (x : Binary32) : List Char :=
  if x.isNegative then '-' :: magnitudeText x else magnitudeText x

end MotionLink.Json

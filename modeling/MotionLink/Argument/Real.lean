import MotionLink.Argument.Segment
import MotionLink.Binary32
import MotionLink.Number.Decimal

/-!
# Real numbers in arguments

A real number is given as digits with at most one point, with at least one
digit on either side of it, and an exponent of ten if need be; or by name, as
infinity or not a number. It stands for the nearest 32-bit value. Decimals far
outside the range of the format are settled by the place of their first digit,
before any power of ten is formed.
-/

namespace MotionLink

/-- The 32-bit value nearest to a decimal. -/
def Binary32.ofDecimal (d : Decimal) : Binary32 :=
  let point : Int := d.digits.length + d.exponent
  if d.significand = 0 ∨ point < -50 then .zero
  else if 40 < point then .infinity
  else .ofRatio d.ratio.1 d.ratio.2

namespace Argument

/-- The number written after the mark of an exponent. -/
def exponent? : List Char → Option Int
  | '-' :: digits => (Numeral.value? 10 digits).map fun n => -(n : Int)
  | text => (Numeral.value? 10 (Numeral.dropPlus text)).map fun n => (n : Int)

/-- The decimal a text stands for. -/
def decimal? (text : List Char) : Option Decimal := do
  let whole := text.takeWhile Char.isDigit
  let rest := text.dropWhile Char.isDigit
  let (fraction, rest) :=
    match rest with
    | '.' :: rest => (rest.takeWhile Char.isDigit, rest.dropWhile Char.isDigit)
    | _ => ([], rest)
  let significand ← Numeral.value? 10 (whole ++ fraction)
  let exponent ←
    match rest with
    | [] => some 0
    | mark :: rest => if lowerLetter mark = 'e' then exponent? rest else none
  return ⟨significand, exponent - fraction.length⟩

/-- The value a text without a sign stands for. -/
def magnitude? (text : List Char) : Option Binary32 :=
  let word := String.ofList (text.map lowerLetter)
  if word = "inf" ∨ word = "infinity" then some .infinity
  else if word = "nan" then some .nan
  else (decimal? text).map .ofDecimal

/-- The value a text stands for. -/
def real? : List Char → Option Binary32
  | '-' :: rest => (magnitude? rest).map .neg
  | text => magnitude? (Numeral.dropPlus text)

/-- The values a text stands for, with commas between. -/
def reals? (text : List Char) : Option (List Binary32) :=
  (text.splitOn ',').mapM real?

end Argument

end MotionLink

import MotionLink.Text.Hex

/-!
# Numerals

Whole numbers written as digits of a radix up to sixteen, of either case, with
any number of leading zeros. `unsigned?` allows a plus sign in front, and
`signed?` a minus sign too; both refuse a number above a bound, however long
its digits are.
-/

namespace MotionLink.Numeral

/-- The number a digit of the radix stands for. -/
def digit? (radix : Nat) (c : Char) : Option Nat := (Hex.value? c).filter (· < radix)

/-- The number with the given digits, most significant first. -/
def ofDigits (radix : Nat) (digits : List Nat) : Nat :=
  digits.foldl (fun n digit => radix * n + digit) 0

/-- The number a text of one or more digits stands for. -/
def value? (radix : Nat) (text : List Char) : Option Nat :=
  if text.isEmpty then none else (text.mapM (digit? radix)).map (ofDigits radix)

/-- A text without the plus sign in front. -/
def dropPlus : List Char → List Char
  | '+' :: rest => rest
  | text => text

/-- The number up to `bound` that a text stands for. -/
def unsigned? (radix bound : Nat) (text : List Char) : Option Nat :=
  (value? radix (dropPlus text)).filter (· ≤ bound)

/-- The number from zero to `bound` that a text stands for; it may be a zero with a minus sign. -/
def signed? (radix bound : Nat) : List Char → Option Nat
  | '-' :: rest => (value? radix rest).filter (· = 0)
  | text => unsigned? radix bound text

end MotionLink.Numeral

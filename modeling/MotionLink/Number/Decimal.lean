import MotionLink.Number.Rounding

/-!
# Decimals and the shortest one that reads back

A decimal is a natural significand times a power of ten. Every dyadic value
`num / 2 ^ places` is a decimal exactly (`Decimal.ofDyadic`). For printing,
`Decimal.shortest` looks for the fewest digits that still round to the same
value of a binary format: for `0, 1, 2, …` digits it tries the two neighbours
of the value on that decimal grid and takes the first grid with a hit, of two
hits the nearer, of two equally near the even one. Where no shorter grid has
one the exact decimal itself remains, so the result always reads back.
-/

namespace MotionLink

/-- The value `significand · 10 ^ exponent`. -/
structure Decimal where
  significand : Nat
  exponent : Int
  deriving DecidableEq, Repr

namespace Decimal

/-- The decimal as a ratio of naturals. -/
def ratio (d : Decimal) : Nat × Nat :=
  if 0 ≤ d.exponent then (d.significand * Nat.pow 10 d.exponent.toNat, 1)
  else (d.significand, Nat.pow 10 (-d.exponent).toNat)

/-- The rank of the value of the format nearest to the decimal. -/
def rank (d : Decimal) (format : BinaryFormat) : Nat :=
  format.rank d.ratio.1 d.ratio.2

/-- The decimal equal to `num / 2 ^ places`. -/
def ofDyadic (num places : Nat) : Decimal := ⟨num * Nat.pow 5 places, -places⟩

/-- The digits of the significand, most significant first. -/
def digits (d : Decimal) : List Char := Nat.toDigits 10 d.significand

/-- The neighbours of a decimal among those with `count` leading digits, the
nearer first and the even one first at a tie. -/
def neighbours (d : Decimal) (count : Nat) : List Decimal :=
  let dropped := d.digits.length - count
  let unit := Nat.pow 10 dropped
  let below := d.significand / unit
  let rest := d.significand % unit
  let low : Decimal := ⟨below, d.exponent + dropped⟩
  let high : Decimal := ⟨below + 1, d.exponent + dropped⟩
  if unit < 2 * rest ∨ (unit = 2 * rest ∧ below % 2 = 1) then [high, low] else [low, high]

/-- The decimal of fewest digits that rounds to the same value of the format. -/
def shortest (d : Decimal) (format : BinaryFormat) : Decimal :=
  let readsBack (candidate : Decimal) : Bool := candidate.rank format == d.rank format
  ((List.range d.digits.length).findSome? fun count => (d.neighbours count).find? readsBack).getD d

/-- The result of `shortest` rounds to the same value of the format. -/
theorem rank_shortest (d : Decimal) (format : BinaryFormat) :
    (d.shortest format).rank format = d.rank format := by
  unfold shortest
  simp only
  cases hfound : (List.range d.digits.length).findSome? fun count =>
      (d.neighbours count).find? fun candidate => candidate.rank format == d.rank format with
  | none => rfl
  | some found =>
    obtain ⟨_, _, hfind⟩ := List.exists_of_findSome?_eq_some hfound
    simpa using List.find?_some hfind

end Decimal

end MotionLink

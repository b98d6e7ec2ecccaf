/-!
# Durations

A span of time in whole nanoseconds, shown in the largest unit of which it
holds at least one, with the fraction as far as it goes.
-/

namespace MotionLink

/-- A span of time. -/
structure Duration where
  nanoseconds : Nat
  deriving DecidableEq, Repr

namespace Duration

/-- A number of milliseconds. -/
def ofMilliseconds (n : Nat) : Duration := ⟨n * 1000000⟩

/-- A number of seconds. -/
def ofSeconds (n : Nat) : Duration := ⟨n * 1000000000⟩

/-- The whole seconds. -/
def seconds (d : Duration) : Nat := d.nanoseconds / 1000000000

/-- The nanoseconds beyond the whole seconds. -/
def fraction (d : Duration) : Nat := d.nanoseconds % 1000000000

/-- The whole milliseconds. -/
def milliseconds (d : Duration) : Nat := d.nanoseconds / 1000000

/-- The digits after the point of `n / 10 ^ places`, for `n` below `10 ^ places`,
without zeros at the end. -/
def fractionDigits (places n : Nat) : List Char :=
  let digits := Nat.toDigits 10 n
  ((List.replicate (places - digits.length) '0' ++ digits).reverse.dropWhile (· == '0')).reverse

/-- `n / 10 ^ places` as a decimal. -/
def decimal (places n : Nat) : String :=
  let digits := fractionDigits places (n % Nat.pow 10 places)
  toString (n / Nat.pow 10 places) ++ (if digits.isEmpty then "" else "." ++ String.ofList digits)

/-- The span in words. -/
def text (d : Duration) : String :=
  let n := d.nanoseconds
  if 1000000000 ≤ n then decimal 9 n ++ "s"
  else if 1000000 ≤ n then decimal 6 n ++ "ms"
  else if 1000 ≤ n then decimal 3 n ++ "µs"
  else decimal 0 n ++ "ns"

end Duration

end MotionLink

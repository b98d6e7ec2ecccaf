import MotionLink.Duration
import MotionLink.Failure
import MotionLink.Text.Blank
import MotionLink.Text.Numeral

/-!
# Durations in arguments

A duration is given as a whole number of seconds, with or without `s` behind
it, or of milliseconds with `ms`. It is not zero and fits 64 bits. Blanks
around it do not count.
-/

namespace MotionLink.Argument

/-- A number and its unit, taken apart. -/
def splitUnit (text : List Char) : List Char × (Nat → Duration) :=
  match text.reverse with
  | 's' :: 'm' :: number => (number.reverse, .ofMilliseconds)
  | 's' :: number => (number.reverse, .ofSeconds)
  | _ => (text, .ofSeconds)

/-- Reads a duration. -/
def duration (text : String) : Except Failure Duration :=
  let trimmed := trimBlank text.toList
  if trimmed.isEmpty then .error ⟨.usage, "duration must not be empty"⟩
  else
    let (number, unit) := splitUnit trimmed
    match Numeral.unsigned? 10 (UInt64.size - 1) number with
    | none => .error ⟨.usage, "invalid duration value: " ++ String.ofList trimmed⟩
    | some 0 => .error ⟨.usage, "duration must be greater than zero"⟩
    | some value => .ok (unit value)

end MotionLink.Argument

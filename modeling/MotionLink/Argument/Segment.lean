import MotionLink.Segment
import MotionLink.Text.Blank
import MotionLink.Text.Numeral

/-!
# Segments in arguments

A segment is given as `broadcast` in letters of either case, or as a number up
to 255 in decimal or, after `0x`, in hexadecimal. Blanks around it do not count.
-/

namespace MotionLink.Argument

/-- The lower-case form of a letter from A to Z; other characters are kept. -/
def lowerLetter (c : Char) : Char :=
  if 'A' ≤ c ∧ c ≤ 'Z' then Char.ofNat (c.toNat + 32) else c

/-- What follows `0x` or `0X` in front of a text. -/
def afterHexMark? : List Char → Option (List Char)
  | '0' :: 'x' :: rest => some rest
  | '0' :: 'X' :: rest => some rest
  | _ => none

/-- The segment a text without surrounding blanks stands for. -/
def segment? (text : List Char) : Option Segment :=
  if text.map lowerLetter = "broadcast".toList then some .broadcast
  else
    let id? :=
      match afterHexMark? text with
      | some digits => Numeral.unsigned? 16 255 digits
      | none => Numeral.unsigned? 10 255 text
    id?.map fun id => ⟨UInt8.ofNat id⟩

/-- Reads a segment, or says what was expected. -/
def segment (text : String) : Except String Segment :=
  let trimmed := trimBlank text.toList
  match segment? trimmed with
  | some segment => .ok segment
  | none =>
    .error ("expected 0-255, 0x00-0xFF or `broadcast`, got `" ++ String.ofList trimmed ++ "`")

end MotionLink.Argument

import MotionLink.Json.Real
import MotionLink.Text.Hex

/-!
# JSON values

Values and their text without blanks. The members of an object are written in
the order they are listed. A real number that is not finite has no text of its
own and is written as `null`.
-/

namespace MotionLink

/-- A JSON value. -/
inductive Json where
  | null
  | nat (n : Nat)
  | real (x : Binary32)
  | text (value : String)
  | array (items : List Json)
  | object (members : List (String × Json))

namespace Json

/-- A character inside quotes. -/
def escaped (c : Char) : List Char :=
  if c = '"' then ['\\', '"']
  else if c = '\\' then ['\\', '\\']
  else if c = '\n' then ['\\', 'n']
  else if c = '\r' then ['\\', 'r']
  else if c = '\t' then ['\\', 't']
  else if c.toNat = 0x8 then ['\\', 'b']
  else if c.toNat = 0xC then ['\\', 'f']
  else if c.toNat < 0x20 then
    ['\\', 'u', '0', '0', Hex.digit (c.toNat / 16), Hex.digit (c.toNat % 16)]
  else [c]

/-- A text in quotes. -/
def quoted (text : String) : List Char := '"' :: (text.toList.flatMap escaped ++ ['"'])

/-- The text of a number without a fraction. -/
def natText (n : Nat) : List Char := Nat.toDigits 10 n

mutual

/-- The text of a value. -/
def write : Json → List Char
  | null => "null".toList
  | nat n => natText n
  | real x => if x.isFinite then realText x else "null".toList
  | text value => quoted value
  | array items => '[' :: (writeItems items ++ [']'])
  | object members => '\x7b' :: (writeMembers members ++ ['\x7d'])

/-- The texts of values, with commas between. -/
def writeItems : List Json → List Char
  | [] => []
  | [item] => item.write
  | item :: items => item.write ++ ',' :: writeItems items

/-- The texts of members, with commas between. -/
def writeMembers : List (String × Json) → List Char
  | [] => []
  | [(name, value)] => quoted name ++ ':' :: value.write
  | (name, value) :: members => quoted name ++ ':' :: (value.write ++ ',' :: writeMembers members)

end

end Json

end MotionLink

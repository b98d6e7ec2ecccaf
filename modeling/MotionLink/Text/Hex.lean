import MotionLink.Bytes

/-!
# Hexadecimal text

Two digits per byte, most significant first: in lower case without separators
(`Hex.plain`), or in upper case with a blank between bytes (`Hex.spaced`).
`Hex.decode` reads digits of either case back and otherwise says what is wrong
first: an odd number of digits is reported before any character that is not a
digit.
-/

namespace MotionLink.Hex

/-- The lower-case digit of a number below sixteen. -/
def digit (n : Nat) : Char :=
  if n < 10 then Char.ofNat ('0'.toNat + n) else Char.ofNat ('a'.toNat + (n - 10))

/-- The upper-case digit of a number below sixteen. -/
def upperDigit (n : Nat) : Char :=
  if n < 10 then Char.ofNat ('0'.toNat + n) else Char.ofNat ('A'.toNat + (n - 10))

/-- The number a digit of either case stands for. -/
def value? (c : Char) : Option Nat :=
  if '0' ≤ c ∧ c ≤ '9' then some (c.toNat - '0'.toNat)
  else if 'a' ≤ c ∧ c ≤ 'f' then some (c.toNat - 'a'.toNat + 10)
  else if 'A' ≤ c ∧ c ≤ 'F' then some (c.toNat - 'A'.toNat + 10)
  else none

/-- Bytes as digits in lower case. -/
def plain (bytes : Bytes) : List Char :=
  bytes.flatMap fun byte => [digit (byte.toNat / 16), digit (byte.toNat % 16)]

/-- Bytes as digits in upper case, a blank between two bytes. -/
def spaced (bytes : Bytes) : List Char :=
  List.intercalate [' ']
    (bytes.map fun byte => [upperDigit (byte.toNat / 16), upperDigit (byte.toNat % 16)])

/-- `0x` and the lowest `width` digits of a number. -/
def marked (width n : Nat) : String :=
  let digits := (List.range width).map fun place => digit (n / Nat.pow 16 place % 16)
  String.ofList ('0' :: 'x' :: digits.reverse)

/-- What keeps a text from being the digits of a byte list. -/
inductive Fault where
  /-- The UTF-8 encoding of the text has an odd length. -/
  | oddLength
  /-- This character is not a digit; the position counts the bytes before it. -/
  | notADigit (char : Char) (position : Nat)
  deriving DecidableEq, Repr

/-- Reads pairs of digits, `position` digits having been read before. -/
def decodePairs (position : Nat) : List Char → Except Fault Bytes
  | [] => .ok []
  | [char] => .error (if (value? char).isSome then .oddLength else .notADigit char position)
  | high :: low :: rest =>
    match value? high, value? low with
    | none, _ => .error (.notADigit high position)
    | some _, none => .error (.notADigit low (position + 1))
    | some h, some l => (UInt8.ofNat (16 * h + l) :: ·) <$> decodePairs (position + 2) rest

/-- Reads a text of digits, two for each byte. -/
def decode (text : List Char) : Except Fault Bytes :=
  if text.foldr (·.utf8Size + ·) 0 % 2 = 1 then .error .oddLength else decodePairs 0 text

/-- How the first byte of a character's UTF-8 encoding is shown between quotes,
as the character of that number; a quote, a backslash and a control character
are escaped. -/
def quotedLead (char : Char) : String :=
  let byte := (String.utf8EncodeChar char).headD 0
  let lead := Char.ofUInt8 byte
  let shown :=
    if lead = '\'' then "\\'"
    else if lead = '\\' then "\\\\"
    else if byte = 0 then "\\0"
    else if byte < 0x20 ∨ byte = 0x7F then
      "\\u\x7b" ++ String.ofList (Nat.toDigits 16 byte.toNat) ++ "\x7d"
    else lead.toString
  "'" ++ shown ++ "'"

/-- The fault in words. -/
def Fault.message : Fault → String
  | .oddLength => "Odd number of digits"
  | .notADigit char position => s!"Invalid character {quotedLead char} at position {position}"

end MotionLink.Hex

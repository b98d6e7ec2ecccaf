import MotionLink.Argument.Segment
import MotionLink.Failure
import MotionLink.Toolbox

/-!
# Frames in arguments

A frame is given as hexadecimal digits in pieces, with blanks, commas or colons
between them. Each piece may start with `0x`, and a byte may be cut in two by
the end of a piece.
-/

namespace MotionLink.Argument

/-- Whether a character stands between pieces. -/
def isSeparator (c : Char) : Bool := isBlank c || c = ',' || c = ':'

/-- The pieces of a text, which may be empty. -/
def pieces (text : List Char) : List (List Char) := text.splitOnP isSeparator

/-- The digits of a text, all pieces joined. -/
def frameDigits (text : List Char) : List Char :=
  (pieces text).flatMap fun piece => (afterHexMark? piece).getD piece

/-- Reads the bytes of a frame. -/
def hexFrame (text : String) (tools : Toolbox := .standard) : Except Failure Bytes :=
  (tools.bytes (frameDigits text.toList)).mapError (.during "invalid hex frame" .dataInvalid)

end MotionLink.Argument

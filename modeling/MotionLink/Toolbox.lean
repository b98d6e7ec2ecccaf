import MotionLink.Json.Value
import MotionLink.Report.Table
import MotionLink.Text.Hex

/-!
# Tools

What the program leaves to others: writing JSON, drawing tables, and writing
bytes as digits and reading them back. Everything that prints or reads in these
notations takes a toolbox, and what is said of it holds of any toolbox whose
tools keep to their notation. `Toolbox.standard` has the tools of this library,
with tables as they are drawn where no terminal limits their width.
-/

namespace MotionLink

/-- Tools for the notations that the program prints and reads. -/
structure Toolbox where
  /-- A JSON value on a line of its own, unless it cannot be written. -/
  json? : Json → Option (List Char)
  /-- A JSON value amid other text. -/
  shown : Json → List Char
  /-- The lines of a table with a header and one row, in the width there is. -/
  table : List Table.Column → List (List Char)
  /-- Bytes as digits. -/
  digits : Bytes → List Char
  /-- The bytes of digits, or in words why there are none. -/
  bytes : List Char → Except String Bytes

namespace Toolbox

/-- The tools of this library. -/
def standard : Toolbox where
  json? value := some value.write
  shown := Json.write
  table := Table.lines
  digits := Hex.plain
  bytes text := (Hex.decode text).mapError Hex.Fault.message

/-- The line of a JSON value: an empty object where it cannot be written. -/
def line (tools : Toolbox) (value : Json) : List Char :=
  (tools.json? value).getD ['\x7b', '\x7d']

end Toolbox

end MotionLink

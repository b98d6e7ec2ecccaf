import MotionLink.Bytes

/-!
# Formats of output

What the program prints is one text line, a table, or the bytes of a frame as
they are.
-/

namespace MotionLink

/-- How packets are printed. -/
inductive OutputFormat where
  | json
  | table
  | pretty
  | raw
  deriving DecidableEq, Repr

namespace OutputFormat

/-- All formats. -/
def all : List OutputFormat := [json, table, pretty, raw]

/-- The format's name on the command line. -/
def name : OutputFormat → String
  | json => "json"
  | table => "table"
  | pretty => "pretty"
  | raw => "raw"

end OutputFormat

/-- What is printed. -/
inductive Output where
  | text (text : String)
  | bytes (bytes : Bytes)
  deriving DecidableEq, Repr

/-- A text in a format, which in the raw one is its bytes. -/
def Output.ofText (text : String) : OutputFormat → Output
  | .raw => .bytes (text.toList.flatMap String.utf8EncodeChar)
  | .json | .table | .pretty => .text text

/-- Lines of text, each with its end. -/
def Output.lines (lines : List (List Char)) : Output :=
  .text (String.ofList (lines.flatMap (· ++ ['\n'])))

end MotionLink

/-!
# Boxed tables

A header row and one row below it, in a box: cells are padded to the width of
their column, with a blank on either side.
-/

namespace MotionLink.Table

/-- A column: its title and the cell below. -/
structure Column where
  title : String
  cell : String

/-- Characters of the longer of title and cell. -/
def Column.width (c : Column) : Nat := max c.title.length c.cell.length

/-- A text in the middle of a column of a given width. -/
def padded (width : Nat) (text : String) : List Char :=
  ' ' :: (text.toList ++ List.replicate (width - text.length + 1) ' ')

/-- A line of pieces between a left and a right edge. -/
def line (left between right : Char) (pieces : List (List Char)) : List Char :=
  left :: (List.intercalate [between] pieces ++ [right])

/-- A line that is drawn through columns of some widths. -/
def rule (left dash between right : Char) (widths : List Nat) : List Char :=
  line left between right (widths.map fun width => List.replicate width dash)

/-- A line of pieces of text, one for each column. -/
def row (pieces : List (List Char)) : List Char := line '│' '┆' '│' pieces

/-- A box of lines of text: those of the header between two rules, and those of the row below. -/
def boxed (widths : List Nat) (header body : List (List (List Char))) : List (List Char) :=
  rule '┌' '─' '┬' '┐' widths :: (header.map row ++
    rule '╞' '═' '╪' '╡' widths :: (body.map row ++ [rule '└' '─' '┴' '┘' widths]))

/-- The lines of a table, every text on one of them. -/
def lines (columns : List Column) : List (List Char) :=
  boxed (columns.map fun c => c.width + 2) [columns.map fun c => padded c.width c.title]
    [columns.map fun c => padded c.width c.cell]

end MotionLink.Table

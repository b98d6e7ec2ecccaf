import Mathlib
import MotionLink.Proofs.Json.Writing
import MotionLink.Proofs.Report.Tables
import MotionLink.Proofs.Text.Denotation
import MotionLink.Toolbox

/-!
# What is relied on of the tools

The program is proved right with any tools that keep to their notations: JSON
written in its standard form (`Toolbox.WritesJson`), tables that show their
texts (`Toolbox.DrawsTables`), and digits that are written for bytes and read as
them (`Toolbox.CodesDigits`). Each is a hypothesis of the theorems that need it,
so that a theorem names all that it takes from elsewhere. Which of two readings
of a text is meant, how wide a table is or what a real number looks like is
nowhere used.

The tools of this library keep to all of them.
-/

namespace MotionLink.Toolbox

variable {tools : Toolbox}

/-- JSON is written in its standard form, on lines of its own as amid other text. -/
structure WritesJson (tools : Toolbox) : Prop where
  /-- There is a line for every value. -/
  line : ∀ value, tools.json? value = some (tools.shown value)
  standard : Json.Standard tools.shown

/-- Tables show their texts, in whatever width there is. -/
def DrawsTables (tools : Toolbox) : Prop := Table.Draws tools.table

/-- Bytes are written as digits, and digits read as bytes. -/
structure CodesDigits (tools : Toolbox) : Prop where
  /-- Each byte is written as two digits, in either case. -/
  writes : ∀ bytes, Hex.Denotes (tools.digits bytes) bytes
  /-- The texts that are read are those of an even number of digits. -/
  accepts : ∀ text, (∃ bytes, tools.bytes text = .ok bytes) ↔
    Even text.length ∧ ∀ c ∈ text, ∃ n, Hex.IsDigit c n
  /-- They are read as the bytes that they denote. -/
  reads : ∀ text bytes, tools.bytes text = .ok bytes → Hex.Denotes text bytes

/-- The line of a value is its text; the empty object that stands in where there
is no line is never used. -/
theorem WritesJson.line_eq (writes : tools.WritesJson) (value : Json) :
    tools.line value = tools.shown value := by
  rw [Toolbox.line, writes.line, Option.getD_some]

/-- A text is read as the bytes that it denotes, and is refused where it denotes none. -/
theorem CodesDigits.bytes_eq_ok (codes : tools.CodesDigits) {text : List Char} {bytes : Bytes} :
    tools.bytes text = .ok bytes ↔ Hex.Denotes text bytes := by
  constructor
  · exact codes.reads text bytes
  · intro denoted
    obtain ⟨read, answer⟩ := (codes.accepts text).mpr (Hex.exists_denotes.mp ⟨bytes, denoted⟩)
    rw [answer, (codes.reads text read answer).unique denoted]

/-! ## The tools of this library -/

/-- The writer of this library keeps to the standard form, and has a line for
every value. -/
theorem writesJson_standard : standard.WritesJson where
  line _ := rfl
  standard := Json.standard_write

/-- Its tables show their texts, on one line for each row. -/
theorem drawsTables_standard : standard.DrawsTables := Table.draws_lines

/-- The decoder of this library reads a text as bytes exactly where it denotes them. -/
theorem codesDigits_standard : standard.CodesDigits where
  writes := Hex.denotes_flatMap Hex.isDigit_digit
  accepts text := by
    simp only [standard, Refusal.mapError_eq_ok, Hex.decode_eq_ok]
    exact Hex.exists_denotes
  reads text bytes read := Hex.decode_eq_ok.mp (Refusal.mapError_eq_ok.mp read)

end MotionLink.Toolbox

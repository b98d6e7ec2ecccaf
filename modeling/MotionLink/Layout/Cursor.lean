import MotionLink.Code
import MotionLink.Layout

/-!
# Reading values one by one

A cursor stands before the next value of an unpacked payload and knows the
names of the fields the remaining values belong to. A read of a kind that the
next value does not have is refused under the name of its field, a read past
the last value as a missing one.
-/

namespace MotionLink

/-- The values still to be read, and the fields they belong to. -/
structure FieldCursor where
  packet : PacketKind
  fields : List Field
  values : List FieldValue

/-- A reading of some of the values from a cursor on. -/
abbrev FieldReader (α : Type) := StateT FieldCursor (Except FrameError) α

namespace FieldCursor

/-- The cursor before the first value. -/
def start (layout : Layout) (values : List FieldValue) : FieldCursor :=
  ⟨layout.kind, layout.valueFields, values⟩

/-- The name of the next field. -/
def fieldName (cursor : FieldCursor) : String :=
  match cursor.fields with
  | [] => "<missing field>"
  | field :: _ => field.name

/-- The cursor after the next field. -/
def advance (cursor : FieldCursor) : FieldCursor :=
  { cursor with fields := cursor.fields.tail, values := cursor.values.tail }

end FieldCursor

namespace FieldReader

/-- Reads the next value if `accept` has an answer for it. -/
def next {α : Type} (accept : FieldValue → Option α) : FieldReader α := fun cursor =>
  match cursor.values.head?.bind accept with
  | some answer => .ok (answer, cursor.advance)
  | none => .error (.layoutMismatch cursor.packet cursor.fieldName)

/-- Reads a byte. -/
def byte : FieldReader UInt8 := next fun
  | .byte value => some value
  | _ => none

/-- Reads a 16-bit word. -/
def word16 : FieldReader UInt16 := next fun
  | .word16 value => some value
  | _ => none

/-- Reads a 32-bit word. -/
def word32 : FieldReader UInt32 := next fun
  | .word32 value => some value
  | _ => none

/-- Reads a floating-point value. -/
def real : FieldReader Binary32 := next fun
  | .real value => some value
  | _ => none

/-- Reads a polynomial. -/
def coefficients : FieldReader Coefficients := next fun
  | .coefficients value => some value
  | _ => none

/-- Reads a coded byte; a byte without a value is refused under the field's name. -/
def coded {α : Type} [Coded α] (field : String) : FieldReader α := do
  let code ← byte
  match Coded.ofByte? code with
  | some value => return value
  | none => throw (.malformedPacket (← get).packet field code)

/-- Reads a byte that must satisfy a test; another is refused under the field's name. -/
def tested (field : String) (test : UInt8 → Bool) : FieldReader UInt8 := do
  let value ← byte
  if test value then return value
  else throw (.malformedPacket (← get).packet field value)

end FieldReader

end MotionLink

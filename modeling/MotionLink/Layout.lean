import MotionLink.Checksum
import MotionLink.Trajectory

/-!
# Frame layouts

A packet kind has one layout: the fields of its payload in wire order, packed
without gaps. `Layout.pack` writes a list of values into the fields and
`Layout.unpack` reads them back. A reserved field takes no value: it is written
as zeros and skipped on reading. Lengths follow from the fields, so a frame of
a known kind has a known length.
-/

namespace MotionLink

/-- What a field holds. -/
inductive FieldKind where
  | byte
  | word16
  | word32
  | real
  | coefficients
  /-- Bytes that carry no value. -/
  | reserved (width : Nat)
  deriving DecidableEq, Repr

/-- A value for a field. -/
inductive FieldValue where
  | byte (value : UInt8)
  | word16 (value : UInt16)
  | word32 (value : UInt32)
  | real (value : Binary32)
  | coefficients (value : Coefficients)
  deriving DecidableEq, Repr

/-- The kind of field a value belongs in. -/
def FieldValue.kind : FieldValue → FieldKind
  | byte _ => .byte
  | word16 _ => .word16
  | word32 _ => .word32
  | real _ => .real
  | coefficients _ => .coefficients

/-- The bytes of a value. -/
def FieldValue.bytes : FieldValue → Bytes
  | byte value => [value]
  | word16 value => LittleEndian.ofWord16 value
  | word32 value => LittleEndian.ofWord32 value
  | real value => LittleEndian.ofWord32 value.bits
  | coefficients value => value.terms.flatMap fun term => LittleEndian.ofWord32 term.bits

namespace FieldKind

/-- Bytes the field takes. -/
def width : FieldKind → Nat
  | byte => 1
  | word16 => 2
  | word32 => 4
  | real => 4
  | coefficients => 4 * coefficientCount
  | reserved width => width

/-- The kind's name in reports. -/
def name : FieldKind → String
  | byte => "u8"
  | word16 => "u16"
  | word32 => "u32"
  | real => "f32"
  | coefficients => "coefficients"
  | reserved _ => "reserved"

/-- Whether the field takes no value. -/
def isReserved : FieldKind → Bool
  | reserved _ => true
  | _ => false

/-- The value in the bytes of a field, none for a reserved field. -/
def read? (kind : FieldKind) (bytes : Bytes) : Option FieldValue :=
  match kind with
  | byte => some (.byte (LittleEndian.byte bytes))
  | word16 => some (.word16 (LittleEndian.word16 bytes))
  | word32 => some (.word32 (LittleEndian.word32 bytes))
  | real => some (.real ⟨LittleEndian.word32 bytes⟩)
  | coefficients =>
    let term (i : Nat) : Binary32 := ⟨LittleEndian.word32 (bytes.slice (4 * i) 4)⟩
    some (.coefficients ⟨(List.range coefficientCount).map term, by simp⟩)
  | reserved _ => none

end FieldKind

/-- A named field. -/
structure Field where
  name : String
  kind : FieldKind
  deriving DecidableEq, Repr

/-- The payload of a packet kind. -/
structure Layout where
  kind : PacketKind
  fields : List Field
  deriving DecidableEq, Repr

namespace Layout

/-- Bytes of the fields together. -/
def payloadLength (layout : Layout) : Nat :=
  layout.fields.foldr (·.kind.width + ·) 0

/-- Bytes before the payload. -/
def headerLength (layout : Layout) : Nat := layout.kind.direction.headerLength

/-- Bytes of a whole frame: header, payload and trailer. -/
def frameLength (layout : Layout) : Nat :=
  layout.headerLength + layout.payloadLength + Checksum.width

/-- The fields that take a value. -/
def valueFields (layout : Layout) : List Field := layout.fields.filter (!·.kind.isReserved)

/-- Writes values into fields, or names the first field at which they disagree. -/
def packFields : List Field → List FieldValue → Except String Bytes
  | [], [] => .ok []
  | [], _ :: _ => .error "<trailing value>"
  | field :: fields, values =>
    match field.kind, values with
    | .reserved width, values => (List.replicate width 0 ++ ·) <$> packFields fields values
    | _, [] => .error field.name
    | kind, value :: values =>
      if value.kind = kind then (value.bytes ++ ·) <$> packFields fields values
      else .error field.name

/-- The payload with the given values. -/
def pack (layout : Layout) (values : List FieldValue) : Except FrameError Bytes :=
  (packFields layout.fields values).mapError (.layoutMismatch layout.kind)

/-- Reads the values of fields that lie one after the other. -/
def unpackFields : List Field → Bytes → List FieldValue
  | [], _ => []
  | field :: fields, bytes =>
    (field.kind.read? (bytes.take field.kind.width)).toList ++
      unpackFields fields (bytes.drop field.kind.width)

/-- The values of a payload, which must have the layout's length. -/
def unpack (layout : Layout) (payload : Bytes) : Except FrameError (List FieldValue) :=
  if payload.length = layout.payloadLength then .ok (unpackFields layout.fields payload)
  else
    .error (.lengthMismatch layout.kind layout.frameLength
      (layout.headerLength + payload.length + Checksum.width))

end Layout

end MotionLink

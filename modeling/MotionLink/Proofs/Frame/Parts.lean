import Mathlib
import MotionLink.Frame
import MotionLink.Proofs.Layout.Packing
import MotionLink.Proofs.Layout.Reading

/-!
# The parts of a frame

Where the parts of an encoded packet lie: the content and trailer of a sealed
run of bytes, the words of a header, and the payload behind it. Every packet
has a registered layout (`Frame.lookup_layout`) that its values fit
(`Frame.pack_values`) and from which its body is read back
(`CommandBody.read_values`, `FeedbackBody.read_values`).
-/

namespace MotionLink

open Refusal

theorem Bytes.slice_append {bytes : Bytes} {offset width : Nat}
    (inside : offset + width ≤ bytes.length) (more : Bytes) :
    slice (bytes ++ more) offset width = slice bytes offset width := by
  unfold slice
  rw [List.drop_append_of_le_length (by omega), List.take_append_of_le_length]
  rw [List.length_drop]
  omega

namespace Checksum

@[simp] theorem length_sealed (bytes : Bytes) :
    (sealed bytes).length = bytes.length + width := by
  simp only [sealed, List.length_append, LittleEndian.length_ofWord16, width]

@[simp] theorem content_sealed (bytes : Bytes) : content (sealed bytes) = bytes := by
  rw [content, length_sealed, Nat.add_sub_cancel]
  exact List.take_left

@[simp] theorem trailer_sealed (bytes : Bytes) :
    trailer (sealed bytes) = LittleEndian.ofWord16 (ofBytes bytes) := by
  rw [trailer, length_sealed, Nat.add_sub_cancel]
  exact List.drop_left

/-- A frame is valid when it has a trailer and the trailer is the check value of its content. -/
theorem valid_iff {frame : Bytes} :
    valid frame = true ↔
      width ≤ frame.length ∧ LittleEndian.word16 (trailer frame) = ofBytes (content frame) := by
  unfold valid stored?
  split
  · rename_i short
    simp only [reduceBEq, Bool.false_eq_true, false_iff, not_and]
    omega
  · rename_i long
    simp only [beq_iff_eq, Option.some.injEq]
    exact (and_iff_right (by omega)).symm

@[simp] theorem valid_sealed (bytes : Bytes) : valid (sealed bytes) = true := by
  refine valid_iff.mpr ⟨?_, ?_⟩
  · rw [length_sealed]
    exact Nat.le_add_left ..
  · rw [trailer_sealed, content_sealed, LittleEndian.word16_ofWord16]

end Checksum

/-! ## The layout of a packet -/

/-- The layout of a command's payload. -/
def CommandBody.layout : CommandBody → Layout
  | trajectory _ => .trajectory
  | emergencyStop _ => .emergencyStop
  | startHoming _ => .startHoming
  | jogMotor _ => .jogMotor
  | setMode _ => .setMode
  | setZeroOffset => .setZeroOffset

/-- The layout of a report's payload. -/
def FeedbackBody.layout : FeedbackBody → Layout
  | motorState _ => .motorState
  | diagnostics _ => .diagnostics

/-- The layout of a packet's payload. -/
def Packet.layout : Packet → Layout
  | command c => c.body.layout
  | feedback f => f.body.layout

/-- A jog without a fault has a motor, a speed and a distance. -/
theorem Jog.fault?_eq_none {jog : Jog} :
    jog.fault? = none ↔
      isMotorId jog.motorId = true ∧ isSpeed jog.speedPercent = true ∧
        jog.value.isFinite = true := by
  unfold fault?
  cases isMotorId jog.motorId <;> cases isSpeed jog.speedPercent <;>
    cases jog.value.isFinite <;> simp

/-- A command without a fault is read back from its values. Codes are read back
by their bytes, and the bytes with a domain pass since the body is without a
fault. -/
theorem CommandBody.read_values {body : CommandBody} (sound : body.fault? = none) :
    (read body.kind).run' (.start body.layout body.values) = .ok body := by
  cases body with
  | trajectory t => rfl
  | emergencyStop reason => rfl
  | startHoming mode =>
    simp only [kind, read, values, layout, FieldCursor.start, FieldReader.run'_eq,
      FieldReader.map_apply, FieldReader.coded_cons, Coded.ofByte?_byte, ok_bind, map_ok]
  | jogMotor jog =>
    obtain ⟨motorId, unit, value, speedPercent⟩ := jog
    obtain ⟨motor, speed, -⟩ := Jog.fault?_eq_none.mp sound
    simp only [kind, read, values, layout, FieldCursor.start, FieldReader.run'_eq,
      FieldReader.bind_apply, FieldReader.tested_cons, motor, speed, if_true, ok_bind,
      FieldReader.coded_cons, Coded.ofByte?_byte, FieldReader.real_cons, FieldReader.pure_apply,
      map_ok]
  | setMode mode =>
    simp only [kind, read, values, layout, FieldCursor.start, FieldReader.run'_eq,
      FieldReader.map_apply, FieldReader.coded_cons, Coded.ofByte?_byte, ok_bind, map_ok]
  | setZeroOffset => rfl

/-- Every report is read back from its values. -/
theorem FeedbackBody.read_values (body : FeedbackBody) :
    (read body.kind).run' (.start body.layout body.values) = .ok body := by
  cases body <;> rfl

namespace Frame

@[simp] theorem kind_layout (packet : Packet) : packet.layout.kind = packet.kind := by
  cases packet with
  | command c => obtain ⟨segment, body⟩ := c; cases body <;> rfl
  | feedback f => obtain ⟨segment, timestamp, body⟩ := f; cases body <;> rfl

/-- The registry knows the layout of every packet. -/
theorem lookup_layout (packet : Packet) :
    Layout.lookup packet.direction packet.kind.id = .ok packet.layout := by
  cases packet with
  | command c => obtain ⟨segment, body⟩ := c; cases body <;> rfl
  | feedback f => obtain ⟨segment, timestamp, body⟩ := f; cases body <;> rfl

/-- The values of a packet have the kinds of its layout's fields. -/
theorem kinds_values (packet : Packet) :
    packet.values.map (·.kind) = packet.layout.valueFields.map (·.kind) := by
  cases packet with
  | command c => obtain ⟨segment, body⟩ := c; cases body <;> rfl
  | feedback f => obtain ⟨segment, timestamp, body⟩ := f; cases body <;> rfl

/-- The values of a packet fit its layout. So an encoder never finds a value
without a field or a field without a value. -/
theorem pack_values (packet : Packet) :
    ∃ payload, packet.layout.pack packet.values = .ok payload :=
  Layout.exists_pack_iff.mpr (kinds_values packet)

/-! ## The first bytes -/

/-- The magic word is settled by the first two bytes. -/
theorem magic_append {bytes : Bytes} (started : 2 ≤ bytes.length) (more : Bytes) :
    magic (bytes ++ more) = magic bytes := by
  rw [magic, Bytes.slice_append started, magic]

/-- The type id is settled by the first three bytes. -/
theorem typeId_append {bytes : Bytes} (probed : 3 ≤ bytes.length) (more : Bytes) :
    typeId (bytes ++ more) = typeId bytes := by
  rw [typeId, Bytes.slice_append probed, typeId]

/-! ## The header -/

/-- The bytes of a header. -/
theorem header_eq (packet : Packet) :
    header packet = UInt8.ofNat packet.direction.magic.toNat ::
      UInt8.ofNat (packet.direction.magic.toNat / 256) :: packet.kind.id ::
        packet.segment.id :: packet.stamp := rfl

@[simp] theorem length_header (packet : Packet) :
    (header packet).length = packet.direction.headerLength := by
  cases packet <;> rfl

variable (packet : Packet) (rest : Bytes)

@[simp] theorem magic_header : magic (header packet ++ rest) = packet.direction.magic :=
  LittleEndian.word16_ofWord16 packet.direction.magic

@[simp] theorem typeId_header : typeId (header packet ++ rest) = packet.kind.id :=
  LittleEndian.byte_singleton packet.kind.id

@[simp] theorem segment_header : segment (header packet ++ rest) = packet.segment :=
  congrArg Segment.mk (LittleEndian.byte_singleton packet.segment.id)

/-- The timestamp is that of the report, in the four bytes behind the segment. -/
@[simp] theorem timestamp_header (feedback : Feedback) :
    timestamp (header (.feedback feedback) ++ rest) = feedback.timestamp :=
  LittleEndian.word32_ofWord32 feedback.timestamp

end Frame

end MotionLink

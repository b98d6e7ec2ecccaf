import Mathlib
import MotionLink.Proofs.Frame.Access
import MotionLink.Proofs.Frame.RoundTrip
import MotionLink.Proofs.Layout.Rewriting

/-!
# What a decoded frame was

A frame that is decoded holds nothing but its packet: the header of the packet,
a payload that unpacks to the packet's values, and the seal over both
(`Frame.parts_of_decode`). What a reader took off a list of values is what the
body it answers with lists (`CommandBody.read_exact`, `FeedbackBody.read_exact`),
and the restricted bytes of that body are in their domains.
-/

namespace MotionLink

open Refusal

/-- The bytes of a body that have a domain lie in it. -/
def CommandBody.InDomain : CommandBody → Prop
  | jogMotor jog => Jog.isMotorId jog.motorId = true ∧ Jog.isSpeed jog.speedPercent = true
  | _ => True

/-- The bytes of a packet that have a domain lie in it. -/
def Packet.InDomain : Packet → Prop
  | command c => c.body.InDomain
  | feedback _ => True

/-! ## What a reading of a body took -/

/-- A body that is read has the kind asked for, and its values are those that
were taken. A reader looks at the values in the order in which the body lists
them, so each case follows from what its reads took. -/
theorem CommandBody.read_exact {kind : CommandKind} {cursor : FieldCursor}
    {found : CommandBody × FieldCursor} (taken : read kind cursor = .ok found) :
    found.1.kind = kind ∧ cursor.values = found.1.values ++ found.2.values ∧
      found.1.InDomain := by
  -- Each reading is taken apart into its steps, and each step gives back the value it took.
  cases kind with
  | trajectory =>
    simp only [read, FieldReader.bind_apply] at taken
    obtain ⟨id, takenId, taken⟩ := bind_eq_ok.mp taken
    obtain ⟨start, takenStart, taken⟩ := bind_eq_ok.mp taken
    obtain ⟨duration, takenDuration, taken⟩ := bind_eq_ok.mp taken
    obtain ⟨first, takenFirst, taken⟩ := bind_eq_ok.mp taken
    obtain ⟨second, takenSecond, taken⟩ := bind_eq_ok.mp taken
    obtain ⟨third, takenThird, taken⟩ := bind_eq_ok.mp taken
    cases taken
    refine ⟨rfl, ?_, trivial⟩
    rw [FieldReader.word32_exact takenId, FieldReader.word32_exact takenStart,
      FieldReader.word16_exact takenDuration, FieldReader.coefficients_exact takenFirst,
      FieldReader.coefficients_exact takenSecond, FieldReader.coefficients_exact takenThird]
    rfl
  | emergencyStop =>
    obtain ⟨reason, takenReason, taken⟩ := bind_eq_ok.mp taken
    cases taken
    exact ⟨rfl, FieldReader.byte_exact takenReason, trivial⟩
  | startHoming =>
    obtain ⟨mode, takenMode, taken⟩ := bind_eq_ok.mp taken
    cases taken
    exact ⟨rfl, FieldReader.coded_exact takenMode, trivial⟩
  | jogMotor =>
    simp only [read, FieldReader.bind_apply] at taken
    obtain ⟨motorId, takenId, taken⟩ := bind_eq_ok.mp taken
    obtain ⟨unit, takenUnit, taken⟩ := bind_eq_ok.mp taken
    obtain ⟨value, takenValue, taken⟩ := bind_eq_ok.mp taken
    obtain ⟨speedPercent, takenSpeed, taken⟩ := bind_eq_ok.mp taken
    cases taken
    obtain ⟨idValues, motor⟩ := FieldReader.tested_exact takenId
    obtain ⟨speedValues, speed⟩ := FieldReader.tested_exact takenSpeed
    refine ⟨rfl, ?_, motor, speed⟩
    rw [idValues, FieldReader.coded_exact takenUnit, FieldReader.real_exact takenValue, speedValues]
    rfl
  | setMode =>
    obtain ⟨mode, takenMode, taken⟩ := bind_eq_ok.mp taken
    cases taken
    exact ⟨rfl, FieldReader.coded_exact takenMode, trivial⟩
  | setZeroOffset =>
    cases taken
    exact ⟨rfl, rfl, trivial⟩

theorem MotorSample.read_exact {cursor : FieldCursor} {found : MotorSample × FieldCursor}
    (taken : read cursor = .ok found) :
    cursor.values = found.1.toList.map .real ++ found.2.values := by
  simp only [read, FieldReader.bind_apply] at taken
  obtain ⟨position, takenPosition, taken⟩ := bind_eq_ok.mp taken
  obtain ⟨velocity, takenVelocity, taken⟩ := bind_eq_ok.mp taken
  obtain ⟨acceleration, takenAcceleration, taken⟩ := bind_eq_ok.mp taken
  obtain ⟨jerk, takenJerk, taken⟩ := bind_eq_ok.mp taken
  obtain ⟨current, takenCurrent, taken⟩ := bind_eq_ok.mp taken
  cases taken
  rw [FieldReader.real_exact takenPosition, FieldReader.real_exact takenVelocity,
    FieldReader.real_exact takenAcceleration, FieldReader.real_exact takenJerk,
    FieldReader.real_exact takenCurrent]
  rfl

theorem Orientation.read_exact {cursor : FieldCursor} {found : Orientation × FieldCursor}
    (taken : read cursor = .ok found) :
    cursor.values = found.1.toList.map .real ++ found.2.values := by
  simp only [read, FieldReader.bind_apply] at taken
  obtain ⟨roll, takenRoll, taken⟩ := bind_eq_ok.mp taken
  obtain ⟨pitch, takenPitch, taken⟩ := bind_eq_ok.mp taken
  obtain ⟨yaw, takenYaw, taken⟩ := bind_eq_ok.mp taken
  cases taken
  rw [FieldReader.real_exact takenRoll, FieldReader.real_exact takenPitch,
    FieldReader.real_exact takenYaw]
  rfl

/-- A report that is read has the kind asked for, and its values are those that
were taken. -/
theorem FeedbackBody.read_exact {kind : FeedbackKind} {cursor : FieldCursor}
    {found : FeedbackBody × FieldCursor} (taken : read kind cursor = .ok found) :
    found.1.kind = kind ∧ cursor.values = found.1.values ++ found.2.values := by
  cases kind with
  | motorState =>
    simp only [read, FieldReader.bind_apply] at taken
    obtain ⟨first, takenFirst, taken⟩ := bind_eq_ok.mp taken
    obtain ⟨second, takenSecond, taken⟩ := bind_eq_ok.mp taken
    obtain ⟨third, takenThird, taken⟩ := bind_eq_ok.mp taken
    obtain ⟨orientation, takenOrientation, taken⟩ := bind_eq_ok.mp taken
    obtain ⟨status, takenStatus, taken⟩ := bind_eq_ok.mp taken
    cases taken
    refine ⟨rfl, ?_⟩
    rw [MotorSample.read_exact takenFirst, MotorSample.read_exact takenSecond,
      MotorSample.read_exact takenThird, Orientation.read_exact takenOrientation,
      FieldReader.byte_exact takenStatus]
    rfl
  | capacitiveGrid => cases taken
  | diagnostics =>
    simp only [read, FieldReader.bind_apply] at taken
    obtain ⟨driverTempAvg, takenDriver, taken⟩ := bind_eq_ok.mp taken
    obtain ⟨controllerTemp, takenController, taken⟩ := bind_eq_ok.mp taken
    obtain ⟨errorCount, takenCount, taken⟩ := bind_eq_ok.mp taken
    obtain ⟨lastErrorCode, takenCode, taken⟩ := bind_eq_ok.mp taken
    obtain ⟨cpuUsage, takenUsage, taken⟩ := bind_eq_ok.mp taken
    cases taken
    refine ⟨rfl, ?_⟩
    rw [FieldReader.real_exact takenDriver, FieldReader.real_exact takenController,
      FieldReader.word16_exact takenCount, FieldReader.byte_exact takenCode,
      FieldReader.byte_exact takenUsage]
    rfl

/-! ## The seal -/

namespace Checksum

/-- A valid frame is its content, sealed: the check value in the trailer is the
only one that could be there. -/
theorem sealed_content {frame : Bytes} (intact : valid frame = true) :
    sealed (content frame) = frame := by
  obtain ⟨long, agrees⟩ := valid_iff.mp intact
  have length : (trailer frame).length = 2 := by
    rw [trailer, List.length_drop, width] at *
    omega
  rw [sealed, ← agrees, LittleEndian.ofWord16_word16 length]
  exact List.take_append_drop _ _

theorem sealed_injective {first second : Bytes} (same : sealed first = sealed second) :
    first = second := by
  rw [← content_sealed first, same, content_sealed]

end Checksum

namespace Frame

/-! ## The header of a decoded frame -/

section

variable {frame : Bytes}

/-- The bytes before the payload of a command: the magic word, the type id and
the segment. -/
theorem take_four (long : 4 ≤ frame.length) :
    frame.take 4 = LittleEndian.ofWord16 (magic frame) ++ [typeId frame, (segment frame).id] := by
  have first : LittleEndian.ofWord16 (magic frame) = frame.slice 0 2 :=
    LittleEndian.ofWord16_word16 (Bytes.length_slice (show 0 + 2 ≤ frame.length by omega))
  have second : [typeId frame] = frame.slice 2 1 :=
    LittleEndian.singleton_byte (Bytes.length_slice (show 2 + 1 ≤ frame.length by omega))
  have third : [(segment frame).id] = frame.slice 3 1 :=
    LittleEndian.singleton_byte (Bytes.length_slice (show 3 + 1 ≤ frame.length by omega))
  have parts : frame.take 4 = frame.slice 0 2 ++ (frame.slice 2 1 ++ frame.slice 3 1) := by
    simp only [Bytes.slice, List.drop_zero, ← List.take_add, ← List.append_assoc]
  rw [parts, first, ← second, ← third]
  rfl

/-- The bytes before the payload of feedback. -/
theorem take_eight (long : 8 ≤ frame.length) :
    frame.take 8 = frame.take 4 ++ LittleEndian.ofWord32 (timestamp frame) := by
  have stamp : LittleEndian.ofWord32 (timestamp frame) = frame.slice 4 4 :=
    LittleEndian.ofWord32_word32 (Bytes.length_slice (show 4 + 4 ≤ frame.length by omega))
  rw [stamp, Bytes.slice, ← List.take_add]

end

/-! ## The parts of a decoded frame -/

/-- A frame that passes the checks of a layout has its length, the magic word of
its direction and a check value that agrees. -/
theorem check_eq_ok {layout : Layout} {frame : Bytes} (passed : check layout frame = .ok ()) :
    frame.length = layout.frameLength ∧ magic frame = layout.kind.direction.magic ∧
      Checksum.valid frame = true := by
  have length := length_of_check passed
  by_cases word : magic frame = layout.kind.direction.magic
  · cases intact : Checksum.valid frame with
    | true => exact ⟨length, word, rfl⟩
    | false => simp [check, length, word, intact] at passed
  · simp [check, length, word] at passed

/-- What a reading of a frame answers has the kind of the layout, and its values come first in
the payload. -/
theorem read_exact {layout : Layout} {frame : Bytes} {packet : Packet}
    (found : read layout frame = .ok packet) :
    packet.kind = layout.kind ∧ packet.InDomain ∧ packet.segment = segment frame ∧
      (∀ feedback, packet = .feedback feedback → feedback.timestamp = timestamp frame) ∧
      ∃ rest, layout.unpack ((Checksum.content frame).drop layout.headerLength) =
        .ok (packet.values ++ rest) := by
  obtain ⟨values, unpacked, found⟩ := bind_eq_ok.mp found
  obtain ⟨kind, fields⟩ := layout
  cases kind with
  | command kind =>
    obtain ⟨body, answered, found⟩ := bind_eq_ok.mp found
    cases found
    rw [FieldReader.run'_eq] at answered
    obtain ⟨taken, read, rfl⟩ := map_eq_ok.mp answered
    obtain ⟨same, front, domain⟩ := CommandBody.read_exact read
    refine ⟨congrArg PacketKind.command same, domain, rfl, nofun, ?_⟩
    exact ⟨taken.2.values, unpacked.trans (congrArg Except.ok front)⟩
  | feedback kind =>
    obtain ⟨body, answered, found⟩ := bind_eq_ok.mp found
    cases found
    rw [FieldReader.run'_eq] at answered
    obtain ⟨taken, read, rfl⟩ := map_eq_ok.mp answered
    obtain ⟨same, front⟩ := FeedbackBody.read_exact read
    refine ⟨congrArg PacketKind.feedback same, trivial, rfl, ?_, ?_⟩
    · rintro feedback ⟨⟩
      rfl
    · exact ⟨taken.2.values, unpacked.trans (congrArg Except.ok front)⟩

/-- A registered layout is that of its packets. -/
theorem layout_of_kind {direction : Direction} {id : UInt8} {layout : Layout} {packet : Packet}
    (known : Layout.lookup direction id = .ok layout) (same : packet.kind = layout.kind) :
    packet.layout = layout := by
  obtain ⟨-, rfl, rfl⟩ := Layout.lookup_eq_ok known
  have own := lookup_layout packet
  rw [Packet.direction, same, known] at own
  exact (Except.ok.inj own).symm

/-- The header of a frame is as long as the direction says, with a timestamp for
feedback. -/
theorem headerLength_layout (packet : Packet) :
    packet.layout.headerLength = packet.direction.headerLength := by
  rw [Layout.headerLength, kind_layout, Packet.direction]

/-- A frame begins with the header of its packet, where the parts of the header
agree with what was read of the frame. -/
theorem take_headerLength {frame : Bytes} {packet : Packet}
    (long : packet.direction.headerLength ≤ frame.length)
    (word : magic frame = packet.direction.magic) (id : typeId frame = packet.kind.id)
    (addressed : packet.segment = segment frame)
    (stamped : ∀ feedback, packet = .feedback feedback → feedback.timestamp = timestamp frame) :
    frame.take packet.direction.headerLength = header packet := by
  cases packet with
  | command c =>
    have front := take_four (show 4 ≤ frame.length from long)
    rw [word, id, ← addressed] at front
    exact front
  | feedback f =>
    have front := take_four (show 4 ≤ frame.length from le_trans (show 4 ≤ 8 by decide) long)
    have stamp := take_eight (show 8 ≤ frame.length from long)
    rw [front, word, id, ← addressed, ← stamped f rfl] at stamp
    exact stamp

/-- A frame that is decoded is the header of its packet with a payload of the
packet's values, sealed. Every byte of it is accounted for, except that a
reserved field has no value to say what it held. -/
theorem parts_of_decode {direction : Direction} {frame : Bytes} {packet : Packet}
    (decoded : decode direction frame = .ok packet) :
    packet.direction = direction ∧ packet.InDomain ∧
      ∃ payload, packet.layout.unpack payload = .ok packet.values ∧
        frame = Checksum.sealed (header packet ++ payload) := by
  unfold decode at decoded
  split at decoded
  · cases decoded
  obtain ⟨layout, known, decoded⟩ := bind_eq_ok.mp decoded
  obtain ⟨_, passed, found⟩ := bind_eq_ok.mp decoded
  obtain ⟨length, word, intact⟩ := check_eq_ok passed
  obtain ⟨same, domain, addressed, stamped, rest, unpacked⟩ := read_exact found
  obtain ⟨-, travels, id⟩ := Layout.lookup_eq_ok known
  obtain rfl := layout_of_kind known same
  rw [← same] at word travels id
  -- The payload has as many values as the packet, so none is left over.
  have count : packet.values.length = packet.layout.valueFields.length := by
    rw [← List.length_map FieldValue.kind, kinds_values, List.length_map]
  rw [Layout.eq_nil_of_unpack unpacked count, List.append_nil] at unpacked
  refine ⟨travels, domain, _, unpacked, ?_⟩
  have header_le : packet.layout.headerLength + 2 ≤ frame.length := by
    rw [length, Layout.frameLength, Checksum.width]
    omega
  have front : (Checksum.content frame).take packet.layout.headerLength = header packet := by
    rw [Checksum.content, List.take_take, Checksum.width, Nat.min_eq_left (by omega),
      headerLength_layout]
    rw [headerLength_layout] at header_le
    exact take_headerLength (by omega) word id.symm addressed stamped
  rw [← front, List.take_append_drop, Checksum.sealed_content intact]

end Frame

end MotionLink

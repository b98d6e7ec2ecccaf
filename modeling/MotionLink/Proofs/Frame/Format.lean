import Mathlib
import MotionLink.Proofs.Frame.Access

/-!
# The format, byte by byte

`Format` is the wire format as a table: for each registered type its length,
the bytes that have a domain, in wire order, and the packet as words at fixed
offsets. `verdict` reads a frame by this table alone, one check after the
other. It knows nothing of layouts, cursors or codes.

`decode_eq_verdict` says that `Frame.decode` gives the verdict of the table on
every run of bytes. On the way a layout's fields are placed at their offsets
(`valuesAt`), and each row of the table is shown to describe the layout of its
type (`Format.Describes`).
-/

namespace MotionLink

open Refusal

/-! ## Words at an offset -/

namespace Bytes

/-- The byte at an offset. -/
def byteAt (frame : Bytes) (offset : Nat) : UInt8 := frame.getD offset 0

/-- The 16-bit word at an offset, its low byte first. -/
def word16At (frame : Bytes) (offset : Nat) : UInt16 :=
  UInt16.ofNat ((frame.byteAt offset).toNat + 256 * (frame.byteAt (offset + 1)).toNat)

/-- The 32-bit word at an offset, its low half first. -/
def word32At (frame : Bytes) (offset : Nat) : UInt32 :=
  UInt32.ofNat ((frame.word16At offset).toNat + 65536 * (frame.word16At (offset + 2)).toNat)

/-- The float whose bits are at an offset. -/
def realAt (frame : Bytes) (offset : Nat) : Binary32 := ⟨frame.word32At offset⟩

/-- Eight floats from an offset on. -/
def coefficientsAt (frame : Bytes) (offset : Nat) : Coefficients :=
  ⟨(List.range 8).map fun i => frame.realAt (offset + 4 * i), by
    rw [List.length_map, List.length_range, coefficientCount]⟩

/-- Five floats from an offset on. -/
def sampleAt (frame : Bytes) (offset : Nat) : MotorSample :=
  ⟨frame.realAt offset, frame.realAt (offset + 4), frame.realAt (offset + 8),
    frame.realAt (offset + 12), frame.realAt (offset + 16)⟩

end Bytes

/-! ## The table -/

/-- A byte of a frame that lies in a range, ends included. -/
structure Domain where
  field : String
  offset : Nat
  least : UInt8
  greatest : UInt8

/-- Whether the byte of a frame lies in its range. -/
def Domain.admits (domain : Domain) (frame : Bytes) : Bool :=
  domain.least ≤ frame.byteAt domain.offset && frame.byteAt domain.offset ≤ domain.greatest

/-- A type of frame: its length, its restricted bytes in wire order, and its packet. -/
structure Format where
  kind : PacketKind
  length : Nat
  domains : List Domain
  packet : Bytes → Packet

namespace Format

/-- A command of the segment at offset 3. -/
def command (frame : Bytes) (body : CommandBody) : Packet := .command ⟨⟨frame.byteAt 3⟩, body⟩

/-- A report of the segment at offset 3, with the timestamp at offset 4. -/
def feedback (frame : Bytes) (body : FeedbackBody) : Packet :=
  .feedback ⟨⟨frame.byteAt 3⟩, frame.word32At 4, body⟩

/-- A number and a start, a duration, and eight coefficients for each of three
motors. -/
def trajectory : Format where
  kind := .command .trajectory
  length := 112
  domains := []
  packet frame := command frame <| .trajectory
    ⟨frame.word32At 4, frame.word32At 8, frame.word16At 12,
      ⟨frame.coefficientsAt 14, frame.coefficientsAt 46, frame.coefficientsAt 78⟩⟩

/-- The reason is any byte. -/
def emergencyStop : Format where
  kind := .command .emergencyStop
  length := 7
  domains := []
  packet frame := command frame <| .emergencyStop (frame.byteAt 4)

/-- The procedure with byte 1 or 2. -/
def homingMode (byte : UInt8) : HomingMode := if byte = 1 then .full else .quickVerify

/-- The procedure is one of two. -/
def startHoming : Format where
  kind := .command .startHoming
  length := 7
  domains := [⟨"homing_mode", 4, 1, 2⟩]
  packet frame := command frame <| .startHoming (homingMode (frame.byteAt 4))

/-- The unit with byte 1 or 2. -/
def jogUnit (byte : UInt8) : JogUnit := if byte = 1 then .millimeters else .encoderTicks

/-- A motor, a unit, a distance and a speed. Three of its bytes have a domain. -/
def jogMotor : Format where
  kind := .command .jogMotor
  length := 13
  domains := [⟨"motor_id", 4, 1, 3⟩, ⟨"mode", 5, 1, 2⟩, ⟨"speed_percent", 10, 0, 100⟩]
  packet frame := command frame <| .jogMotor
    ⟨frame.byteAt 4, jogUnit (frame.byteAt 5), frame.realAt 6, frame.byteAt 10⟩

/-- The mode with byte 1, 2 or 3. -/
def operatingMode (byte : UInt8) : OperatingMode :=
  if byte = 1 then .idle else if byte = 2 then .homing else .operation

/-- The mode is one of three. -/
def setMode : Format where
  kind := .command .setMode
  length := 7
  domains := [⟨"mode", 4, 1, 3⟩]
  packet frame := command frame <| .setMode (operatingMode (frame.byteAt 4))

/-- There is nothing behind the header. -/
def setZeroOffset : Format where
  kind := .command .setZeroOffset
  length := 6
  domains := []
  packet frame := command frame .setZeroOffset

/-- Five readings for each of three motors, three angles and a status byte of
any value. -/
def motorState : Format where
  kind := .feedback .motorState
  length := 83
  domains := []
  packet frame := feedback frame <| .motorState
    ⟨⟨frame.sampleAt 8, frame.sampleAt 28, frame.sampleAt 48⟩,
      ⟨frame.realAt 68, frame.realAt 72, frame.realAt 76⟩, ⟨frame.byteAt 80⟩⟩

/-- Bytes 20 to 23 are reserved. -/
def diagnostics : Format where
  kind := .feedback .diagnostics
  length := 26
  domains := []
  packet frame := feedback frame <| .diagnostics
    ⟨frame.realAt 8, frame.realAt 12, frame.word16At 16, frame.byteAt 18, frame.byteAt 19⟩

/-- The registered types. -/
def ofId? : Direction → UInt8 → Option Format
  | .masterToBoard, 1 => some trajectory
  | .masterToBoard, 2 => some emergencyStop
  | .masterToBoard, 3 => some startHoming
  | .masterToBoard, 7 => some jogMotor
  | .masterToBoard, 8 => some setMode
  | .masterToBoard, 9 => some setZeroOffset
  | .boardToMaster, 1 => some motorState
  | .boardToMaster, 3 => some diagnostics
  | _, _ => none

/-- The packet of an intact frame, or the first byte outside its domain. -/
def answer (format : Format) (frame : Bytes) : Except FrameError Packet :=
  match format.domains.find? (!·.admits frame) with
  | some domain =>
    .error (.malformedPacket format.kind domain.field (frame.byteAt domain.offset))
  | none => .ok (format.packet frame)

end Format

/-- What the table says of a run of bytes: the first check that fails, or the packet. -/
def verdict (direction : Direction) (frame : Bytes) : Except FrameError Packet :=
  if frame.length < 3 then .error (.tooShort frame.length)
  else
    match Format.ofId? direction (frame.byteAt 2) with
    | none => .error (.unknownPacketType direction (frame.byteAt 2))
    | some format =>
      if frame.length ≠ format.length then
        .error (.lengthMismatch format.kind format.length frame.length)
      else if frame.word16At 0 ≠ direction.magic then
        .error (.badMagic direction.magic (frame.word16At 0))
      else if Checksum.valid frame = false then
        .error (.checksumMismatch format.kind (frame.word16At (frame.length - 2))
          (Checksum.ofBytes (frame.take (frame.length - 2))))
      else format.answer frame

/-! ## Fields at their offsets -/

section

variable {frame : Bytes} {offset : Nat}

/-- A slice within a frame begins with the byte at its offset. Words are built
up from this, one byte after the other. -/
theorem slice_eq_byteAt {width : Nat} (inside : offset + width + 1 ≤ frame.length) :
    frame.slice offset (width + 1) = frame.byteAt offset :: frame.slice (offset + 1) width := by
  have first : offset < frame.length := by omega
  rw [Bytes.slice_eq_cons first, Bytes.byteAt, List.getD_eq_getElem?_getD,
    List.getElem?_eq_getElem first, Option.getD_some]

theorem byte_slice (inside : offset + 1 ≤ frame.length) :
    LittleEndian.byte (frame.slice offset 1) = frame.byteAt offset := by
  rw [slice_eq_byteAt (by omega), Bytes.slice_zero_width, LittleEndian.byte_singleton]

theorem word16_slice (inside : offset + 2 ≤ frame.length) :
    LittleEndian.word16 (frame.slice offset 2) = frame.word16At offset := by
  rw [slice_eq_byteAt (by omega), slice_eq_byteAt (by omega), Bytes.slice_zero_width]
  rfl

/-- A word of 32 bits is read at the offset of its slice, from two words of half
the width. -/
theorem word32_slice (inside : offset + 4 ≤ frame.length) :
    LittleEndian.word32 (frame.slice offset 4) = frame.word32At offset := by
  have half (low high : UInt8) :
      (UInt16.ofNat (low.toNat + 256 * high.toNat)).toNat = low.toNat + 256 * high.toNat := by
    have := low.toNat_lt
    have := high.toNat_lt
    rw [UInt16.toNat_ofNat']
    omega
  rw [slice_eq_byteAt (by omega), slice_eq_byteAt (by omega), slice_eq_byteAt (by omega),
    slice_eq_byteAt (by omega), Bytes.slice_zero_width, Bytes.word32At, Bytes.word16At,
    Bytes.word16At, half, half]
  simp only [LittleEndian.word32, LittleEndian.value, Nat.add_assoc, Nat.reduceAdd]
  congr 1
  omega

/-- The value a field has at an offset, none for a reserved field. -/
def FieldKind.valueAt? (kind : FieldKind) (frame : Bytes) (offset : Nat) : Option FieldValue :=
  match kind with
  | byte => some (.byte (frame.byteAt offset))
  | word16 => some (.word16 (frame.word16At offset))
  | word32 => some (.word32 (frame.word32At offset))
  | real => some (.real (frame.realAt offset))
  | coefficients => some (.coefficients (frame.coefficientsAt offset))
  | reserved _ => none

/-- A field is read at its offset, where it lies within the frame. A list of
coefficients is read word by word, the others in one piece. -/
theorem FieldKind.read?_slice {kind : FieldKind} (inside : offset + kind.width ≤ frame.length) :
    kind.read? (frame.slice offset kind.width) = kind.valueAt? frame offset := by
  cases kind with
  | byte => exact congrArg (some ∘ FieldValue.byte) (byte_slice inside)
  | word16 => exact congrArg (some ∘ FieldValue.word16) (word16_slice inside)
  | word32 => exact congrArg (some ∘ FieldValue.word32) (word32_slice inside)
  | real => exact congrArg (some ∘ FieldValue.real ∘ Binary32.mk) (word32_slice inside)
  | coefficients =>
    have terms : ∀ i ∈ List.range 8, LittleEndian.word32
        (Bytes.slice (frame.slice offset (4 * coefficientCount)) (4 * i) 4) =
          frame.word32At (offset + 4 * i) := by
      intro i mem
      have below := List.mem_range.mp mem
      simp only [width, coefficientCount] at inside
      rw [← word32_slice (by omega), Bytes.slice, Bytes.slice, List.drop_take, List.take_take,
        List.drop_drop, Bytes.slice, coefficientCount, Nat.min_eq_left (by omega)]
    simp only [read?, valueAt?, width, Bytes.coefficientsAt, Option.some.injEq,
      FieldValue.coefficients.injEq, Coefficients.mk.injEq]
    exact List.map_congr_left fun i mem => congrArg Binary32.mk (terms i mem)
  | reserved width => rfl

/-- The values of fields that follow each other from an offset on. -/
def valuesAt (frame : Bytes) : List Field → Nat → List FieldValue
  | [], _ => []
  | field :: fields, offset =>
    (field.kind.valueAt? frame offset).toList ++ valuesAt frame fields (offset + field.kind.width)

/-- Unpacking the bytes before the trailer reads each field at its offset. Where
a field starts is the sum of the widths before it; here it becomes the number in
the table. -/
theorem unpackFields_content {fields : List Field}
    (inside : offset + fields.foldr (·.kind.width + ·) 0 + 2 ≤ frame.length) :
    Layout.unpackFields fields ((Checksum.content frame).drop offset) =
      valuesAt frame fields offset := by
  induction fields generalizing offset with
  | nil => rfl
  | cons field fields ih =>
    simp only [List.foldr_cons] at inside
    have here : ((Checksum.content frame).drop offset).take field.kind.width =
        frame.slice offset field.kind.width := by
      rw [Checksum.content, List.drop_take, List.take_take, Bytes.slice, Checksum.width,
        Nat.min_eq_left (by omega)]
    have rest := @ih (offset + field.kind.width) (by omega)
    rw [Layout.unpackFields, here, FieldKind.read?_slice (by omega), List.drop_drop, rest, valuesAt]

end

/-! ## Codes in a range -/

/-- Values whose bytes fill a range are found for exactly the bytes of the
range. Codes that are looked up in a list become an interval, as the table has
it. -/
theorem Coded.ofByte?_eq_ite {α : Type} [Coded α] [Coded.Lawful α] {least greatest : UInt8}
    {valueOf : UInt8 → α}
    (filled : ∀ code, least ≤ code → code ≤ greatest → Coded.byte (valueOf code) = code)
    (ranged : ∀ value : α, least ≤ Coded.byte value ∧ Coded.byte value ≤ greatest)
    (code : UInt8) :
    (Coded.ofByte? code : Option α) =
      if least ≤ code && code ≤ greatest then some (valueOf code) else none := by
  by_cases inside : least ≤ code ∧ code ≤ greatest
  · rw [if_pos (by simpa using inside)]
    conv => lhs; rw [← filled code inside.1 inside.2]
    exact Coded.ofByte?_byte (valueOf code)
  · rw [if_neg (by simpa using inside)]
    cases found : (Coded.ofByte? code : Option α) with
    | none => rfl
    | some value =>
      have same := Coded.byte_of_ofByte? found
      exact absurd (same ▸ ranged value) inside

theorem homingMode_ofByte? (code : UInt8) : (Coded.ofByte? code : Option HomingMode) =
    if 1 ≤ code && code ≤ 2 then some (Format.homingMode code) else none := by
  refine Coded.ofByte?_eq_ite (fun code low high => ?_) (fun mode => by cases mode <;> decide) code
  obtain rfl | rfl : code = 1 ∨ code = 2 := by grind
  · rfl
  · rfl

theorem jogUnit_ofByte? (code : UInt8) : (Coded.ofByte? code : Option JogUnit) =
    if 1 ≤ code && code ≤ 2 then some (Format.jogUnit code) else none := by
  refine Coded.ofByte?_eq_ite (fun code low high => ?_) (fun unit => by cases unit <;> decide) code
  obtain rfl | rfl : code = 1 ∨ code = 2 := by grind
  · rfl
  · rfl

theorem operatingMode_ofByte? (code : UInt8) : (Coded.ofByte? code : Option OperatingMode) =
    if 1 ≤ code && code ≤ 3 then some (Format.operatingMode code) else none := by
  refine Coded.ofByte?_eq_ite (fun code low high => ?_) (fun mode => by cases mode <;> decide) code
  obtain rfl | rfl | rfl : code = 1 ∨ code = 2 ∨ code = 3 := by grind
  · rfl
  · rfl
  · rfl

/-! ## The rows of the table -/

/-- The values of a frame of the right length, each read at its offset: the
length check of unpacking is passed, and the fields begin behind the header. -/
theorem unpack_content {layout : Layout} {frame : Bytes}
    (length : frame.length = layout.frameLength) :
    layout.unpack ((Checksum.content frame).drop layout.headerLength) =
      .ok (valuesAt frame layout.fields layout.headerLength) := by
  have total : layout.headerLength + layout.payloadLength + 2 = frame.length := length.symm
  have payload : ((Checksum.content frame).drop layout.headerLength).length =
      layout.payloadLength := by
    rw [List.length_drop, Checksum.content, List.length_take, Checksum.width]
    omega
  rw [Layout.unpack, if_pos payload, unpackFields_content (Nat.le_of_eq total)]

/-- A row of the table and the layout of its type agree on every frame of the
right length. There is one such proof for each row, and the verdict follows from
them without a look at any layout. -/
structure Format.Describes (format : Format) (layout : Layout) : Prop where
  kind : layout.kind = format.kind
  length : layout.frameLength = format.length
  answer : ∀ frame, frame.length = format.length → Frame.read layout frame = format.answer frame

/-- The answer for a command comes from the body in its values. The segment is
read from the header in the same way for all commands, so a row has to be
compared in its body only. -/
theorem Format.describes_command {format : Format} {layout : Layout} {kind : CommandKind}
    (same : layout.kind = format.kind) (length : layout.frameLength = format.length)
    (command : layout.kind = .command kind)
    (body : ∀ frame,
      ((CommandBody.read kind).run' (.start layout (valuesAt frame layout.fields 4)) >>=
        fun body => .ok (Format.command frame body)) = format.answer frame) :
    format.Describes layout where
  kind := same
  length := length
  answer frame sized := by
    have inside : 3 + 1 ≤ frame.length := by
      have total : layout.kind.direction.headerLength + layout.payloadLength + 2 = frame.length :=
        length.trans sized.symm
      simp only [command, PacketKind.direction, Direction.headerLength] at total
      omega
    have header : layout.headerLength = 4 := by
      rw [Layout.headerLength, command]
      rfl
    have segment : Frame.segment frame = ⟨frame.byteAt 3⟩ :=
      congrArg Segment.mk (byte_slice inside)
    unfold Frame.read
    rw [unpack_content (sized.trans length.symm), ok_bind, header, command, segment]
    exact body frame

/-- The row of trajectories describes their layout: every run of bytes is the
payload of one. -/
theorem Format.trajectory_describes : Format.trajectory.Describes .trajectory :=
  Format.describes_command rfl rfl rfl fun _ => rfl

theorem Format.emergencyStop_describes : Format.emergencyStop.Describes .emergencyStop :=
  Format.describes_command rfl rfl rfl fun _ => rfl

theorem Format.setZeroOffset_describes : Format.setZeroOffset.Describes .setZeroOffset :=
  Format.describes_command rfl rfl rfl fun _ => rfl

/-- A body that is one coded byte is refused where its byte is out of range, and
the code is looked up exactly where it is not. -/
theorem run_read_coded {α : Type} [Coded α] {least greatest : UInt8} {valueOf : UInt8 → α}
    (found : ∀ code, (Coded.ofByte? code : Option α) =
      if least ≤ code && code ≤ greatest then some (valueOf code) else none)
    (body : α → CommandBody) (format : Format) (field : String) (fields : List Field)
    (frame : Bytes) (domains : format.domains = [⟨field, 4, least, greatest⟩])
    (packet : format.packet frame = Format.command frame (body (valueOf (frame.byteAt 4)))) :
    ((body <$> (FieldReader.coded field : FieldReader α)).run'
        ⟨format.kind, fields, [.byte (frame.byteAt 4)]⟩ >>=
      fun body => .ok (Format.command frame body)) = format.answer frame := by
  rw [FieldReader.run'_eq, FieldReader.map_apply, FieldReader.coded_cons, found, Format.answer,
    domains, packet]
  simp only [List.find?, Domain.admits]
  cases least ≤ frame.byteAt 4 && frame.byteAt 4 ≤ greatest with
  | true => rfl
  | false => rfl

theorem Format.startHoming_describes : Format.startHoming.Describes .startHoming :=
  Format.describes_command rfl rfl rfl fun frame =>
    run_read_coded homingMode_ofByte? .startHoming Format.startHoming "homing_mode"
      Layout.startHoming.fields frame rfl rfl

theorem Format.setMode_describes : Format.setMode.Describes .setMode :=
  Format.describes_command rfl rfl rfl fun frame =>
    run_read_coded operatingMode_ofByte? .setMode Format.setMode "mode" Layout.setMode.fields frame
      rfl rfl

/-- A jog is refused for its motor, then for its unit, then for its speed. The
distance is read between the two and is never refused, whatever its bits are. -/
theorem run_read_jogMotor (packet : PacketKind) (fields : List Field) (motorId unit : UInt8)
    (value : Binary32) (speedPercent : UInt8) :
    (CommandBody.read .jogMotor).run'
        ⟨packet, fields, [.byte motorId, .byte unit, .real value, .byte speedPercent]⟩ =
      if Jog.isMotorId motorId then
        match (Coded.ofByte? unit : Option JogUnit) with
        | some unit =>
          if Jog.isSpeed speedPercent then .ok (.jogMotor ⟨motorId, unit, value, speedPercent⟩)
          else .error (.malformedPacket packet "speed_percent" speedPercent)
        | none => .error (.malformedPacket packet "mode" unit)
      else .error (.malformedPacket packet "motor_id" motorId) := by
  simp only [CommandBody.read, FieldReader.run'_eq, FieldReader.bind_apply,
    FieldReader.tested_cons]
  cases Jog.isMotorId motorId with
  | false => rfl
  | true =>
    simp only [if_true, ok_bind, FieldReader.coded_cons]
    cases (Coded.ofByte? unit : Option JogUnit) with
    | none => rfl
    | some unit =>
      simp only [ok_bind, FieldReader.real_cons, FieldReader.tested_cons]
      cases Jog.isSpeed speedPercent with
      | false => rfl
      | true => rfl

/-- The row of jogs describes their layout, with the domains in the order of the
checks. -/
theorem Format.jogMotor_describes : Format.jogMotor.Describes .jogMotor := by
  refine Format.describes_command rfl rfl rfl fun frame => ?_
  have values : valuesAt frame Layout.jogMotor.fields 4 = [.byte (frame.byteAt 4),
      .byte (frame.byteAt 5), .real (frame.realAt 6), .byte (frame.byteAt 10)] := rfl
  have motor : Domain.admits ⟨"motor_id", 4, 1, 3⟩ frame = Jog.isMotorId (frame.byteAt 4) := rfl
  have unit : Domain.admits ⟨"mode", 5, 1, 2⟩ frame =
      (1 ≤ frame.byteAt 5 && frame.byteAt 5 ≤ 2) := rfl
  have speed : Domain.admits ⟨"speed_percent", 10, 0, 100⟩ frame =
      Jog.isSpeed (frame.byteAt 10) := by
    simp [Domain.admits, Jog.isSpeed]
  rw [values, FieldCursor.start, run_read_jogMotor, jogUnit_ofByte?]
  simp only [Format.answer, Format.jogMotor, List.find?, motor, unit, speed]
  cases Jog.isMotorId (frame.byteAt 4) with
  | false => rfl
  | true =>
    cases 1 ≤ frame.byteAt 5 && frame.byteAt 5 ≤ 2 with
    | false => rfl
    | true =>
      cases Jog.isSpeed (frame.byteAt 10) with
      | false => rfl
      | true => rfl

/-- The answer for a report is the packet of the body in its values. Segment and
timestamp are read from the header, and a report has no byte with a domain. -/
theorem Format.describes_feedback {format : Format} {layout : Layout} {kind : FeedbackKind}
    (same : layout.kind = format.kind) (length : layout.frameLength = format.length)
    (feedback : layout.kind = .feedback kind)
    (body : ∀ frame,
      ((FeedbackBody.read kind).run' (.start layout (valuesAt frame layout.fields 8)) >>=
        fun body => .ok (Format.feedback frame body)) = format.answer frame) :
    format.Describes layout where
  kind := same
  length := length
  answer frame sized := by
    have inside : 4 + 4 ≤ frame.length := by
      have total : layout.kind.direction.headerLength + layout.payloadLength + 2 = frame.length :=
        length.trans sized.symm
      simp only [feedback, PacketKind.direction, Direction.headerLength] at total
      omega
    have header : layout.headerLength = 8 := by
      rw [Layout.headerLength, feedback]
      rfl
    have early : 3 + 1 ≤ frame.length := by omega
    have segment : Frame.segment frame = ⟨frame.byteAt 3⟩ :=
      congrArg Segment.mk (byte_slice early)
    have timestamp : Frame.timestamp frame = frame.word32At 4 := word32_slice inside
    unfold Frame.read
    rw [unpack_content (sized.trans length.symm), ok_bind, header, feedback, segment, timestamp]
    exact body frame

theorem Format.motorState_describes : Format.motorState.Describes .motorState :=
  Format.describes_feedback rfl rfl rfl fun _ => rfl

/-- The row of diagnostics describes their layout, and skips the same four
bytes. -/
theorem Format.diagnostics_describes : Format.diagnostics.Describes .diagnostics :=
  Format.describes_feedback rfl rfl rfl fun _ => rfl

/-- Every registered layout has a row in the table, so that the table leaves out
no type. -/
theorem isSome_ofId?_of_mem : ∀ layout ∈ Layout.registry,
    (Format.ofId? layout.kind.direction layout.kind.id).isSome = true := by
  decide

/-- A type that the table does not know has no layout: the registry has no
entries besides those of the table. -/
theorem lookup_of_ofId?_eq_none {direction : Direction} {id : UInt8}
    (unknown : Format.ofId? direction id = none) :
    Layout.lookup direction id = .error (.unknownPacketType direction id) := by
  cases known : Layout.lookup direction id with
  | error error => rw [Layout.lookup_eq_error known]
  | ok layout =>
    obtain ⟨registered, rfl, rfl⟩ := Layout.lookup_eq_ok known
    have row := isSome_ofId?_of_mem layout registered
    rw [unknown] at row
    cases row

/-- A row of the table describes the layout that is registered for its type.
There are eight rows, each with its own description. -/
theorem lookup_of_ofId?_eq_some {direction : Direction} {id : UInt8} {format : Format}
    (row : Format.ofId? direction id = some format) :
    ∃ layout, Layout.lookup direction id = .ok layout ∧ format.Describes layout := by
  unfold Format.ofId? at row
  split at row
  · cases row; exact ⟨.trajectory, rfl, Format.trajectory_describes⟩
  · cases row; exact ⟨.emergencyStop, rfl, Format.emergencyStop_describes⟩
  · cases row; exact ⟨.startHoming, rfl, Format.startHoming_describes⟩
  · cases row; exact ⟨.jogMotor, rfl, Format.jogMotor_describes⟩
  · cases row; exact ⟨.setMode, rfl, Format.setMode_describes⟩
  · cases row; exact ⟨.setZeroOffset, rfl, Format.setZeroOffset_describes⟩
  · cases row; exact ⟨.motorState, rfl, Format.motorState_describes⟩
  · cases row; exact ⟨.diagnostics, rfl, Format.diagnostics_describes⟩
  · cases row

/-! ## The verdict -/

/-- The checks of a layout, in the words of the table: the length, then the
magic word, then the check value. A frame of the right length has its trailer in
the last two bytes. -/
theorem check_described {format : Format} {layout : Layout} {direction : Direction} {frame : Bytes}
    (row : format.Describes layout) (travels : layout.kind.direction = direction)
    (sized : 6 ≤ layout.frameLength) :
    Frame.check layout frame =
      if frame.length ≠ format.length then
        .error (.lengthMismatch format.kind format.length frame.length)
      else if frame.word16At 0 ≠ direction.magic then
        .error (.badMagic direction.magic (frame.word16At 0))
      else if Checksum.valid frame = false then
        .error (.checksumMismatch format.kind (frame.word16At (frame.length - 2))
          (Checksum.ofBytes (frame.take (frame.length - 2))))
      else .ok () := by
  unfold Frame.check
  rw [row.length, row.kind] at *
  by_cases length : frame.length = format.length
  · have magic : Frame.magic frame = frame.word16At 0 := word16_slice (by omega)
    have trailer : LittleEndian.word16 (Checksum.trailer frame) =
        frame.word16At (frame.length - 2) := by
      rw [← word16_slice (by omega), Checksum.trailer, Bytes.slice, List.take_of_length_le]
      · rfl
      · rw [List.length_drop]
        omega
    simp only [travels, magic, trailer, Checksum.content, Checksum.width, Bool.not_eq_true']
  · simp only [length, ne_eq, not_false_eq_true, if_true]

/-- The verdict never blames a layout; it has no such answer to give. -/
theorem verdict_ne_layoutMismatch (direction : Direction) (frame : Bytes) (kind : PacketKind)
    (field : String) : verdict direction frame ≠ .error (.layoutMismatch kind field) := by
  have answered (format : Format) : format.answer frame ≠ .error (.layoutMismatch kind field) := by
    unfold Format.answer
    split <;> exact nofun
  unfold verdict
  split
  · exact nofun
  · split
    · exact nofun
    · rename_i format _
      split
      · exact nofun
      · split
        · exact nofun
        · split
          · exact nofun
          · exact answered format

/-- On every run of bytes the decoder gives the verdict of the table: the same
packet, or the same refusal with the same numbers in it. No access it makes is
out of range, and a layout never disagrees with the values read by it. -/
theorem decode_eq_verdict (direction : Direction) (frame : Bytes) :
    Frame.decode direction frame = verdict direction frame ∧
    Frame.decode? direction frame = some (Frame.decode direction frame) ∧
    ∀ kind field, Frame.decode direction frame ≠ .error (.layoutMismatch kind field) := by
  have same : Frame.decode direction frame = verdict direction frame := by
    -- Length, type, then the checks of that type: both go through them in this order.
    unfold Frame.decode verdict
    by_cases short : frame.length < 3
    · exact (if_pos short).trans (if_pos short).symm
    rw [if_neg short, if_neg (show ¬ frame.length < Frame.probeLength from short)]
    have probe : 2 + 1 ≤ frame.length := Nat.not_lt.mp short
    have id : Frame.typeId frame = frame.byteAt 2 := byte_slice probe
    rw [id]
    cases row : Format.ofId? direction (frame.byteAt 2) with
    | none =>
      rw [lookup_of_ofId?_eq_none row]
      rfl
    | some format =>
      obtain ⟨layout, known, described⟩ := lookup_of_ofId?_eq_some row
      obtain ⟨registered, travels, -⟩ := Layout.lookup_eq_ok known
      rw [known, ok_bind,
        check_described described travels (Layout.frameLength_bounds registered).1]
      by_cases length : frame.length = format.length
      · have answer := described.answer frame length
        simp only [length, ne_eq, not_true_eq_false, if_false, answer]
        split
        · rfl
        · split
          · rfl
          · rfl
      · simp only [length, ne_eq, not_false_eq_true, if_true]
        rfl
  refine ⟨same, Frame.decode?_eq direction frame, fun kind field => ?_⟩
  rw [same]
  exact verdict_ne_layoutMismatch direction frame kind field

end MotionLink

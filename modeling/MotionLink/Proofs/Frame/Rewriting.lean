import Mathlib
import MotionLink.Proofs.Frame.Exactness

/-!
# Frames written again

What `Frame.encode` makes of a packet that was decoded. The decoder and the
encoder have domains of their own: a command may be received that may not be
sent (`Command.Withheld`), and a reserved field is skipped by the one and zeroed
by the other. Apart from these a frame is written as it was received
(`Frame.encode_of_decode`).
-/

namespace MotionLink

open Refusal

/-! ## What keeps a decoded command from being sent -/

/-- A value of the body is infinite or not a number. -/
def CommandBody.NonFinite : CommandBody → Prop
  | trajectory t => ∃ motor ∈ t.motors.toList, ∃ term ∈ motor.terms, term.isFinite = false
  | jogMotor jog => jog.value.isFinite = false
  | _ => False

/-- A command that may be received but not sent: it speaks to every board where its kind may not,
or holds a value that is not finite. -/
def Command.Withheld (command : Command) : Prop :=
  (command.segment.id = 255 ∧ command.kind ∈ [.trajectory, .jogMotor, .setZeroOffset]) ∨
    command.body.NonFinite

/-- A trajectory is without a fault where all its coefficients are finite. -/
theorem Trajectory.fault?_eq_none {t : Trajectory} :
    t.fault? = none ↔ ¬ CommandBody.NonFinite (.trajectory t) := by
  simp [fault?, CommandBody.NonFinite, Coefficients.isFinite, List.findIdx?_eq_none_iff]

/-- In its domain, a body is kept from being sent by a value that is not finite and by nothing
else. -/
theorem CommandBody.fault?_eq_none {body : CommandBody} (domain : body.InDomain) :
    body.fault? = none ↔ ¬ body.NonFinite := by
  cases body with
  | trajectory t => exact Trajectory.fault?_eq_none
  | jogMotor jog =>
    rw [fault?, Jog.fault?_eq_none, NonFinite, Bool.not_eq_false]
    exact ⟨fun sound => sound.2.2, fun finite => ⟨domain.1, domain.2, finite⟩⟩
  | _ => exact iff_of_true rfl not_false

/-- The motor and the speed of a jog in its domain are never at fault. The
decoder asks the same of these two bytes as the encoder. -/
theorem CommandBody.fault?_ne {body : CommandBody} (domain : body.InDomain) (value : UInt8) :
    body.fault? ≠ some (.motorId value) ∧ body.fault? ≠ some (.speed value) := by
  cases body with
  | trajectory t =>
    simp only [fault?, Trajectory.fault?, ne_eq, Option.map_eq_some_iff, reduceCtorEq, and_false,
      exists_false, not_false_eq_true, and_self]
  | jogMotor jog =>
    obtain ⟨motor, speed⟩ := domain
    simp only [fault?, Jog.fault?, motor, speed, Bool.not_true, Bool.false_eq_true, if_false]
    split
    · exact ⟨nofun, nofun⟩
    · exact ⟨nofun, nofun⟩
  | _ => exact ⟨nofun, nofun⟩

theorem Segment.isBroadcast_iff {segment : Segment} :
    segment.isBroadcast = true ↔ segment.id = 255 := by
  obtain ⟨id⟩ := segment
  simp [isBroadcast, broadcast]

/-- The commands that may not be broadcast. -/
theorem CommandKind.supportsBroadcast_eq_false {kind : CommandKind} :
    kind.supportsBroadcast = false ↔ kind ∈ [trajectory, jogMotor, setZeroOffset] := by
  cases kind <;> decide

/-- The commands that their address keeps from being sent. -/
theorem Command.barred_iff {command : Command} :
    (command.segment.isBroadcast && !command.kind.supportsBroadcast) = true ↔
      command.segment.id = 255 ∧ command.kind ∈ [.trajectory, .jogMotor, .setZeroOffset] := by
  rw [Bool.and_eq_true, Bool.not_eq_true', Segment.isBroadcast_iff,
    CommandKind.supportsBroadcast_eq_false]

/-- In its domain, a command may be sent exactly where it is not withheld. -/
theorem Command.fault?_eq_none {command : Command} (domain : command.body.InDomain) :
    command.fault? = none ↔ ¬ command.Withheld := by
  unfold fault? Withheld
  split
  · rename_i spoken
    exact iff_of_false nofun (not_not.mpr (.inl (barred_iff.mp spoken)))
  · rename_i unspoken
    rw [CommandBody.fault?_eq_none domain, not_or]
    exact (and_iff_right (mt barred_iff.mpr unspoken)).symm

/-- A command in its domain is never refused for a motor or a speed. -/
theorem Command.fault?_ne {command : Command} (domain : command.body.InDomain) (value : UInt8) :
    command.fault? ≠ some (.motorId value) ∧ command.fault? ≠ some (.speed value) := by
  unfold fault?
  split
  · exact ⟨nofun, nofun⟩
  · exact CommandBody.fault?_ne domain value

namespace Frame

/-! ## Writing a decoded frame again -/

section

variable {packet : Packet} {payload : Bytes}

/-- A packet with the values of a payload is written with that payload, its reserved fields
blank. -/
theorem encode_of_unpack (unpacked : packet.layout.unpack payload = .ok packet.values) :
    encode packet = (packet.validate >>= fun () =>
      .ok (Checksum.sealed (header packet ++ Layout.blank packet.layout.fields payload))) :=
  encode_eq (Layout.pack_unpack unpacked)

/-- Only diagnostics have a reserved field. -/
theorem isReserved_eq_false : ∀ layout ∈ Layout.registry, layout.kind ≠ .feedback .diagnostics →
    ∀ field ∈ layout.fields, field.kind.isReserved = false := by
  decide

theorem blank_of_unpack (unpacked : packet.layout.unpack payload = .ok packet.values)
    (other : packet.kind ≠ .feedback .diagnostics) :
    Layout.blank packet.layout.fields payload = payload := by
  have registered := (Layout.lookup_eq_ok (lookup_layout packet)).1
  rw [← kind_layout] at other
  exact Layout.blank_eq_self (isReserved_eq_false _ registered other)
    (Layout.unpack_eq_ok.mp unpacked).1

end

/-- Where the parts of a payload lie in a frame of diagnostics: eight bytes of
header, twelve of values and four that are reserved. -/
theorem parts_sealed {front values reserved : Bytes} (header : front.length = 8)
    (valued : values.length = 12) (spare : reserved.length = 4) :
    (Checksum.sealed (front ++ (values ++ reserved))).take 20 = front ++ values ∧
      Bytes.slice (Checksum.sealed (front ++ (values ++ reserved))) 20 4 = reserved := by
  have length : (front ++ values).length = 20 := by
    rw [List.length_append]
    omega
  rw [Checksum.sealed, ← List.append_assoc, List.append_assoc, Bytes.slice,
    List.take_left' length, List.drop_left' length, List.take_left' spare]
  exact ⟨rfl, rfl⟩

/-- The payload of diagnostics is twelve bytes of values and the reserved field behind them. -/
theorem blank_diagnostics (payload : Bytes) :
    Layout.blank Layout.diagnostics.fields payload = payload.take 12 ++ [0, 0, 0, 0] := by
  simp only [Layout.blank, Layout.diagnostics, FieldKind.isReserved, FieldKind.width,
    Bool.false_eq_true, if_false, if_true, List.append_nil, List.drop_drop, ← List.append_assoc,
    ← List.take_add]
  rfl

/-- A frame of diagnostics, with its reserved field and with zeros in place of
it. All that the two frames share stands before that field. -/
theorem parts_of_diagnostics {direction : Direction} {frame : Bytes} {packet : Packet}
    (decoded : decode direction frame = .ok packet) (kind : packet.kind = .feedback .diagnostics) :
    ∃ values reserved, values.length = 12 ∧ reserved.length = 4 ∧ (header packet).length = 8 ∧
      frame = Checksum.sealed (header packet ++ (values ++ reserved)) ∧
      packet.layout.pack packet.values = .ok (values ++ [0, 0, 0, 0]) := by
  obtain ⟨-, -, payload, unpacked, rfl⟩ := parts_of_decode decoded
  have layout : packet.layout = Layout.diagnostics := by
    cases packet with
    | command c => cases kind
    | feedback f =>
      obtain ⟨segment, timestamp, body⟩ := f
      cases body with
      | motorState state => cases kind
      | diagnostics d => rfl
  have packed := Layout.pack_unpack unpacked
  have length := (Layout.unpack_eq_ok.mp unpacked).1
  rw [layout] at length
  have sixteen : payload.length = 16 := length
  refine ⟨payload.take 12, payload.drop 12, ?_, ?_, ?_, ?_, ?_⟩
  · rw [List.length_take, sixteen]
    rfl
  · rw [List.length_drop, sixteen]
  · rw [length_header, Packet.direction, kind]
    rfl
  · rw [List.take_append_drop]
  · rw [packed, layout, blank_diagnostics]

/-- A command that is decoded is written as it was received, unless it is
withheld. No command has a reserved field, so there is nothing else to lose. -/
theorem encode_command {direction : Direction} {frame : Bytes} {command : Command}
    (decoded : decode direction frame = .ok (.command command)) :
    (¬ command.Withheld → encode (.command command) = .ok frame) ∧
      (command.Withheld → ∃ fault,
        encode (.command command) = .error (.malformedCommand (.command command.kind) fault) ∧
        ∀ value, fault ≠ .motorId value ∧ fault ≠ .speed value) := by
  obtain ⟨-, domain, payload, unpacked, rfl⟩ := parts_of_decode decoded
  have again := encode_of_unpack unpacked
  rw [blank_of_unpack unpacked nofun, Packet.validate, Command.validate] at again
  rw [again]
  cases found : command.fault? with
  | none =>
    have free := (Command.fault?_eq_none domain).mp found
    exact ⟨fun _ => rfl, fun withheld => absurd withheld free⟩
  | some fault =>
    have withheld : command.Withheld := by
      by_contra free
      rw [(Command.fault?_eq_none domain).mpr free] at found
      cases found
    refine ⟨fun free => absurd withheld free, fun _ => ⟨fault, rfl, fun value => ?_⟩⟩
    obtain ⟨motor, speed⟩ := Command.fault?_ne domain value
    rw [found] at motor speed
    exact ⟨fun same => motor (congrArg some same), fun same => speed (congrArg some same)⟩

/-- Diagnostics that are decoded are written with zeros in place of their
reserved bytes, and with the check value of that. The frame is the one received
just where these bytes were zeros. -/
theorem encode_diagnostics {direction : Direction} {frame : Bytes} {feedback : Feedback}
    (decoded : decode direction frame = .ok (.feedback feedback))
    (kind : feedback.kind = .diagnostics) :
    ∃ again, encode (.feedback feedback) = .ok again ∧ again.length = 26 ∧
      again.take 20 = frame.take 20 ∧ again.slice 20 4 = [0, 0, 0, 0] ∧
      again.drop 24 = LittleEndian.ofWord16 (Checksum.ofBytes (again.take 24)) ∧
      (again = frame ↔ frame.slice 20 4 = [0, 0, 0, 0]) := by
  obtain ⟨values, reserved, valued, spare, front, rfl, packed⟩ :=
    parts_of_diagnostics decoded (congrArg PacketKind.feedback kind)
  obtain ⟨early, late⟩ := parts_sealed front valued spare
  have zeros : [(0 : UInt8), 0, 0, 0].length = 4 := rfl
  obtain ⟨early', late'⟩ := parts_sealed front valued zeros
  have length : (header (.feedback feedback) ++ (values ++ [0, 0, 0, 0])).length = 24 := by
    rw [List.length_append, List.length_append, front, valued]
    rfl
  refine ⟨_, encode_eq packed, ?_, early'.trans early.symm, late', ?_, ?_⟩
  · rw [Checksum.length_sealed, length]
    rfl
  · rw [Checksum.sealed, List.drop_left' length, List.take_left' length]
  · rw [late]
    constructor
    · intro same
      have joined := Checksum.sealed_injective same
      exact (List.append_cancel_left (List.append_cancel_left joined)).symm
    · rintro rfl
      rfl

/-- Two frames of one packet are the same, save for the reserved bytes of
diagnostics. Both are written again as one frame, and only there does writing
change anything. -/
theorem eq_of_decode_eq {direction : Direction} {frame other : Bytes} {packet : Packet}
    (decoded : decode direction frame = .ok packet) (decoded' : decode direction other = .ok packet)
    (distinct : other ≠ frame) :
    packet.kind = .feedback .diagnostics ∧ other.slice 20 4 ≠ frame.slice 20 4 := by
  by_cases kind : packet.kind = .feedback .diagnostics
  · refine ⟨kind, fun reserved => distinct ?_⟩
    obtain ⟨values, spare, valued, four, front, rfl, packed⟩ := parts_of_diagnostics decoded kind
    obtain ⟨values', spare', valued', four', -, rfl, packed'⟩ := parts_of_diagnostics decoded' kind
    rw [(parts_sealed front valued four).2, (parts_sealed front valued' four').2] at reserved
    rw [packed] at packed'
    rw [reserved, List.append_cancel_right (Except.ok.inj packed')]
  · obtain ⟨-, -, payload, unpacked, rfl⟩ := parts_of_decode decoded
    obtain ⟨-, -, payload', unpacked', rfl⟩ := parts_of_decode decoded'
    have packed := Layout.pack_unpack unpacked
    rw [Layout.pack_unpack unpacked', blank_of_unpack unpacked kind, blank_of_unpack unpacked' kind]
      at packed
    exact absurd (congrArg _ (congrArg _ (Except.ok.inj packed))) distinct

/-- A packet that was decoded is written as it was received, with the exceptions named here. A
command is refused that may be received but not sent, never for its motor or its speed. Of
diagnostics the reserved bytes are not kept, and only there do two frames have one packet. -/
theorem encode_of_decode {direction : Direction} {frame : Bytes} {packet : Packet}
    (decoded : decode direction frame = .ok packet) :
    (∀ command, packet = .command command →
      (¬ command.Withheld → encode packet = .ok frame) ∧
      (command.Withheld → ∃ fault,
        encode packet = .error (.malformedCommand packet.kind fault) ∧
        ∀ value, fault ≠ .motorId value ∧ fault ≠ .speed value)) ∧
    (packet.kind = .feedback .motorState → encode packet = .ok frame) ∧
    (packet.kind = .feedback .diagnostics → ∃ again,
      encode packet = .ok again ∧ again.length = 26 ∧ again.take 20 = frame.take 20 ∧
      again.slice 20 4 = [0, 0, 0, 0] ∧
      again.drop 24 = LittleEndian.ofWord16 (Checksum.ofBytes (again.take 24)) ∧
      (again = frame ↔ frame.slice 20 4 = [0, 0, 0, 0])) ∧
    ∀ other, decode direction other = .ok packet → other ≠ frame →
      packet.kind = .feedback .diagnostics ∧ other.slice 20 4 ≠ frame.slice 20 4 := by
  refine ⟨?_, ?_, ?_, fun other decoded' => eq_of_decode_eq decoded decoded'⟩
  · rintro command rfl
    exact encode_command decoded
  · intro kind
    obtain ⟨-, -, payload, unpacked, rfl⟩ := parts_of_decode decoded
    rw [encode_of_unpack unpacked, blank_of_unpack unpacked (by rw [kind]; decide)]
    cases packet with
    | command c => cases kind
    | feedback f => rfl
  · intro kind
    cases packet with
    | command c => cases kind
    | feedback f => exact encode_diagnostics decoded (PacketKind.feedback.inj kind)

/-- The same diagnostics come back without their reserved bytes. A jog to every board, of a
distance that is not a number, is understood but not sent again. -/
theorem encode_of_decode_exceptions :
    let frame : Bytes :=
      [85, 187, 3, 2, 232, 3, 0, 0, 0, 0, 128, 63, 0, 0, 0, 192, 5, 0, 7, 9, 1, 0, 0, 2, 84, 209]
    let report : Packet :=
      .feedback ⟨⟨2⟩, 1000, .diagnostics ⟨⟨0x3F800000⟩, ⟨0xC0000000⟩, 5, 7, 9⟩⟩
    let jog : Command := ⟨.broadcast, .jogMotor ⟨1, .encoderTicks, ⟨0x7FC00000⟩, 50⟩⟩
    decode .boardToMaster frame = .ok report ∧
      (∃ again, encode report = .ok again ∧ again ≠ frame) ∧
      decode .masterToBoard [85, 170, 7, 255, 1, 2, 0, 0, 192, 127, 50, 85, 59] =
        .ok (.command jog) ∧
      ∃ fault, encode (.command jog) = .error (.malformedCommand (.command .jogMotor) fault) := by
  intro frame report jog
  have decoded : decode .boardToMaster frame = .ok report := by decide +kernel
  have decoded' : decode .masterToBoard [85, 170, 7, 255, 1, 2, 0, 0, 192, 127, 50, 85, 59] =
      .ok (.command jog) := by decide +kernel
  obtain ⟨again, sent, -, -, -, -, same⟩ := (encode_of_decode decoded).2.2.1 rfl
  obtain ⟨fault, refused, -⟩ := ((encode_of_decode decoded').1 jog rfl).2 (.inl ⟨rfl, by decide⟩)
  exact ⟨decoded, ⟨again, sent, mt same.mp (by decide)⟩, decoded', fault, refused⟩

end Frame

end MotionLink

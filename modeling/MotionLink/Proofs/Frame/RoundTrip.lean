import Mathlib
import MotionLink.Proofs.Frame.Parts

/-!
# Packets survive their frames

`encode_eq_ok_iff` and `encode_eq_error_iff` say what `Frame.encode` does: it
refuses exactly the packets that `Packet.validate` refuses, with the same
error, and otherwise seals the header and the packed values. No layout of the
registry can disagree with the values of a packet, so the later refusals of the
encoder never happen.

`decode_sealed` reads such a frame back. Values are compared as bit patterns
throughout: a float is its bits, a status its byte and an error code its byte,
named or not.
-/

namespace MotionLink.Frame

open Refusal

/-! ## What encoding answers -/

section

variable {packet : Packet} {payload : Bytes}

/-- A sealed frame has the length its layout gives. -/
theorem length_sealed_header (packed : packet.layout.pack packet.values = .ok payload) :
    (Checksum.sealed (header packet ++ payload)).length = packet.layout.frameLength := by
  rw [Checksum.length_sealed, List.length_append, length_header,
    Layout.length_packFields (mapError_eq_ok.mp packed), Layout.frameLength, Layout.headerLength,
    kind_layout]
  rfl

theorem magic_sealed_header (packet : Packet) (payload : Bytes) :
    magic (Checksum.sealed (header packet ++ payload)) = packet.direction.magic := by
  rw [Checksum.sealed, List.append_assoc, magic_header]

theorem typeId_sealed_header (packet : Packet) (payload : Bytes) :
    typeId (Checksum.sealed (header packet ++ payload)) = packet.kind.id := by
  rw [Checksum.sealed, List.append_assoc, typeId_header]

/-- The frame of a packet, when nothing keeps it from being sent. Of all the
steps of the encoder only the validation is left to decide anything. -/
theorem encode_eq (packed : packet.layout.pack packet.values = .ok payload) :
    encode packet = (packet.validate >>= fun () =>
      .ok (Checksum.sealed (header packet ++ payload))) := by
  unfold encode
  simp only [lookup_layout, packed, ok_bind, length_sealed_header packed, if_true]
  rfl

end

/-- Encoding goes through for the packets that pass validation, and the frame is
the header with the packed values, sealed. -/
theorem encode_eq_ok_iff {packet : Packet} {frame : Bytes} :
    encode packet = .ok frame ↔
      packet.validate = .ok () ∧ ∃ payload, packet.layout.pack packet.values = .ok payload ∧
        frame = Checksum.sealed (header packet ++ payload) := by
  obtain ⟨payload, packed⟩ := pack_values packet
  rw [encode_eq packed, bind_eq_ok]
  constructor
  · rintro ⟨⟨⟩, sound, same⟩
    exact ⟨sound, payload, packed, (Except.ok.inj same).symm⟩
  · rintro ⟨sound, other, packed', rfl⟩
    cases packed.symm.trans packed'
    exact ⟨(), sound, rfl⟩

/-- A packet has a frame when it passes validation. -/
theorem exists_encode {packet : Packet} :
    (∃ frame, encode packet = .ok frame) ↔ packet.validate = .ok () := by
  constructor
  · rintro ⟨frame, sent⟩
    exact (encode_eq_ok_iff.mp sent).1
  · intro sound
    obtain ⟨payload, packed⟩ := pack_values packet
    exact ⟨_, encode_eq_ok_iff.mpr ⟨sound, payload, packed, rfl⟩⟩

/-- Encoding refuses what validation refuses, for the same reason. -/
theorem encode_eq_error_iff {packet : Packet} {error : FrameError} :
    encode packet = .error error ↔ packet.validate = .error error := by
  obtain ⟨payload, packed⟩ := pack_values packet
  rw [encode_eq packed]
  cases packet.validate with
  | ok _ => simp only [ok_bind, reduceCtorEq]
  | error e => simp only [error_bind, Except.error.injEq]

/-- A packet that is refused is a command, refused as malformed. -/
theorem validate_eq_error {packet : Packet} {error : FrameError}
    (refused : packet.validate = .error error) :
    ∃ fault, error = .malformedCommand packet.kind fault := by
  cases packet with
  | feedback f => cases refused
  | command c =>
    simp only [Packet.validate, Command.validate] at refused
    split at refused
    · exact ⟨_, (Except.error.inj refused).symm⟩
    · cases refused

/-- Feedback is always sent, a command when it passes its own validation. -/
theorem validate_eq_ok_iff {packet : Packet} :
    packet.validate = .ok () ↔
      (∃ feedback, packet = .feedback feedback) ∨
        ∃ command, packet = .command command ∧ command.validate = .ok () := by
  cases packet with
  | command c => simp only [Packet.validate, reduceCtorEq, exists_false, false_or,
      Packet.command.injEq, exists_eq_left']
  | feedback f => simp only [Packet.validate, Packet.feedback.injEq, exists_eq', true_or]

/-- A command that passes validation has a body without a fault. Its address has
been judged as well, but is no part of what is read back from the values. -/
theorem fault?_body_of_validate {command : Command} (sound : command.validate = .ok ()) :
    command.body.fault? = none := by
  simp only [Command.validate] at sound
  split at sound
  · cases sound
  · rename_i faultless
    simp only [Command.fault?] at faultless
    split at faultless
    · cases faultless
    · exact faultless

/-! ## Reading a sealed frame -/

section

variable {packet : Packet} {payload : Bytes}

/-- A sealed frame passes the checks of its layout: it was made with the length,
the magic word and the check value that they look for. -/
theorem check_sealed (packed : packet.layout.pack packet.values = .ok payload) :
    check packet.layout (Checksum.sealed (header packet ++ payload)) = .ok () := by
  have expected : magic (Checksum.sealed (header packet ++ payload)) =
      packet.layout.kind.direction.magic := by
    rw [magic_sealed_header, kind_layout]
    rfl
  unfold check
  simp only [length_sealed_header packed, expected, ne_eq, not_true_eq_false, if_false,
    Checksum.valid_sealed, Bool.not_true, Bool.false_eq_true]

/-- The packet of a sealed frame is the one it was made of. The values are
unpacked as they were packed, and the readers of a body undo what listed them. -/
theorem read_sealed (packed : packet.layout.pack packet.values = .ok payload)
    (sound : packet.validate = .ok ()) :
    read packet.layout (Checksum.sealed (header packet ++ payload)) = .ok packet := by
  have body : (header packet ++ payload).drop packet.layout.headerLength = payload := by
    refine List.drop_left' ?_
    rw [length_header, Layout.headerLength, kind_layout]
    rfl
  unfold read
  rw [Checksum.content_sealed, body, Layout.unpack_pack packed]
  simp only [ok_bind, kind_layout, Checksum.sealed, List.append_assoc, segment_header]
  cases packet with
  | command c =>
    have answer := CommandBody.read_values (fault?_body_of_validate sound)
    simp only [Packet.kind, Command.kind, Packet.layout, Packet.values, answer, ok_bind]
    rfl
  | feedback f =>
    have answer := FeedbackBody.read_values f.body
    simp only [Packet.kind, Feedback.kind, Packet.layout, Packet.values, answer, ok_bind,
      timestamp_header]
    rfl

/-- A sealed frame is decoded to its packet: its type is registered, its
layout's checks pass and its values are read back. -/
theorem decode_sealed (packed : packet.layout.pack packet.values = .ok payload)
    (sound : packet.validate = .ok ()) :
    decode packet.direction (Checksum.sealed (header packet ++ payload)) = .ok packet := by
  have long : ¬ (Checksum.sealed (header packet ++ payload)).length < probeLength := by
    rw [Checksum.length_sealed, List.length_append, header_eq]
    simp only [List.length_cons, probeLength]
    omega
  unfold decode
  rw [if_neg long, typeId_sealed_header, lookup_layout, ok_bind, check_sealed packed, ok_bind,
    read_sealed packed sound]

end

section

variable {packet : Packet} {frame : Bytes}

/-- An encoded frame is valid and of the length that its layout gives. -/
theorem valid_of_encode (sent : encode packet = .ok frame) :
    Checksum.valid frame = true ∧ frame.length = packet.layout.frameLength ∧
      typeId frame = packet.kind.id ∧ magic frame = packet.direction.magic := by
  obtain ⟨-, payload, packed, rfl⟩ := encode_eq_ok_iff.mp sent
  exact ⟨Checksum.valid_sealed _, length_sealed_header packed, typeId_sealed_header packet payload,
    magic_sealed_header packet payload⟩

/-- An encoded frame is decoded to its packet. -/
theorem decode_of_encode (sent : encode packet = .ok frame) :
    decode packet.direction frame = .ok packet := by
  obtain ⟨sound, payload, packed, rfl⟩ := encode_eq_ok_iff.mp sent
  exact decode_sealed packed sound

end

/-- Every packet that may be sent has a frame, and the frame decodes to that
packet. The encoder refuses nothing else: layout and values of a packet never
disagree, no frame has a wrong length, and every packet has a registered type. -/
theorem decode_encode (packet : Packet) :
    ((∃ frame, encode packet = .ok frame) ↔
      (∃ feedback, packet = .feedback feedback) ∨
        ∃ command, packet = .command command ∧ command.validate = .ok ()) ∧
    (∀ frame, encode packet = .ok frame → decode packet.direction frame = .ok packet) ∧
    (∀ kind field, encode packet ≠ .error (.layoutMismatch kind field)) ∧
    (∀ kind expected actual, encode packet ≠ .error (.lengthMismatch kind expected actual)) ∧
    ∀ direction id, encode packet ≠ .error (.unknownPacketType direction id) := by
  have malformed {error : FrameError} (refused : encode packet = .error error) :
      ∃ fault, error = .malformedCommand packet.kind fault :=
    validate_eq_error (encode_eq_error_iff.mp refused)
  refine ⟨?_, ?_, ?_, ?_, ?_⟩
  · rw [← validate_eq_ok_iff]
    constructor
    · rintro ⟨frame, sent⟩
      exact (encode_eq_ok_iff.mp sent).1
    · intro sound
      obtain ⟨payload, packed⟩ := pack_values packet
      exact ⟨_, encode_eq_ok_iff.mpr ⟨sound, payload, packed, rfl⟩⟩
  · intro frame sent
    obtain ⟨sound, payload, packed, rfl⟩ := encode_eq_ok_iff.mp sent
    exact decode_sealed packed sound
  · intro kind field refused
    obtain ⟨fault, wrong⟩ := malformed refused
    cases wrong
  · intro kind expected actual refused
    obtain ⟨fault, wrong⟩ := malformed refused
    cases wrong
  · intro direction id refused
    obtain ⟨fault, wrong⟩ := malformed refused
    cases wrong

end MotionLink.Frame

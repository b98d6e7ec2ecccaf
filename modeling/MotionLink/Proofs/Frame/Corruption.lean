import Mathlib
import MotionLink.Proofs.Checksum.Detection
import MotionLink.Proofs.Frame.Exactness
import MotionLink.Proofs.Frame.RoundTrip
import MotionLink.Proofs.Layout.Lookup

/-!
# Damaged frames are refused

A frame that fails its checksum is never decoded (`valid_of_decode`), and where
the bytes that lead the decoder to the checksum are those that were sent, the
refusal names the checksum (`decode_damaged`).
-/

namespace MotionLink.Frame

open Refusal

/-- A frame that is decoded is valid. -/
theorem valid_of_decode {direction : Direction} {frame : Bytes} {packet : Packet}
    (decoded : decode direction frame = .ok packet) : Checksum.valid frame = true := by
  obtain ⟨-, -, payload, -, rfl⟩ := parts_of_decode decoded
  exact Checksum.valid_sealed _

/-- Frames that begin with the same three bytes have the same magic word and
type id, so a decoder takes them for frames of one type. -/
theorem same_start {frame other : Bytes} (probed : 3 ≤ frame.length)
    (same : other.take 3 = frame.take 3) :
    magic other = magic frame ∧ typeId other = typeId frame := by
  have size : (frame.take 3).length = 3 := by
    rw [List.length_take]
    omega
  have parts := (List.take_append_drop 3 frame).symm
  have parts' := (List.take_append_drop 3 other).symm
  rw [parts, parts', same]
  refine ⟨?_, ?_⟩
  · rw [magic_append (by omega), magic_append (by omega)]
  · rw [typeId_append (by omega), typeId_append (by omega)]

/-- Damage to two bits of an encoded frame, to an odd number of bits, or within sixteen bits in a
row before the trailer is never taken for a packet. Where the magic word and the type id are those
that were sent, it is the checksum that fails. -/
theorem decode_damaged {packet : Packet} {frame received : Bytes}
    (sent : encode packet = .ok frame) (length : received.length = frame.length)
    (damaged : Checksum.Damaged frame received) :
    (∃ error, decode packet.direction received = .error error) ∧
      (received.take 3 = frame.take 3 →
        decode packet.direction received =
          .error (.checksumMismatch packet.kind
            (LittleEndian.word16 (Checksum.trailer received))
            (Checksum.ofBytes (Checksum.content received)))) := by
  obtain ⟨intact, sized, id, word⟩ := valid_of_encode sent
  have registered := (Layout.lookup_eq_ok (lookup_layout packet)).1
  obtain ⟨least, most⟩ := Layout.frameLength_bounds registered
  rw [← sized] at least most
  -- The longest frame is short enough for any two wrong bits in it to be noticed.
  have found := Checksum.valid_eq_false_of_damaged (Layout.maxFrameLength_eq ▸ most)
    (by omega) length intact damaged
  refine ⟨?_, fun same => ?_⟩
  · cases decoded : decode packet.direction received with
    | error error => exact ⟨error, rfl⟩
    | ok other =>
      rw [valid_of_decode decoded] at found
      cases found
  · obtain ⟨word', id'⟩ := same_start (by omega) same
    -- With the first bytes as they were sent, all checks before that of the check value are passed.
    have long : ¬ received.length < probeLength := by
      unfold probeLength
      omega
    have expected : packet.layout.kind.direction.magic = magic received := by
      rw [word', word, kind_layout]
      rfl
    rw [decode, if_neg long, id', id, lookup_layout, ok_bind, check,
      if_neg (not_not.mpr (length.trans sized)), if_neg (not_not.mpr expected.symm), found,
      kind_layout]
    rfl

/-- Eight bits of a stop, across its segment and its reason. -/
theorem decode_damaged_stop :
    encode (.command ⟨⟨2⟩, .emergencyStop 1⟩) = .ok [85, 170, 2, 2, 1, 151, 189] ∧
      Checksum.Damaged [85, 170, 2, 2, 1, 151, 189] [85, 170, 2, 13, 241, 151, 189] ∧
      decode .masterToBoard [85, 170, 2, 13, 241, 151, 189] =
        .error (.checksumMismatch (.command .emergencyStop) 0xBD97 0x42B6) := by
  have sent : encode (.command ⟨⟨2⟩, .emergencyStop 1⟩) = .ok [85, 170, 2, 2, 1, 151, 189] := by
    decide +kernel
  have damaged : Checksum.Damaged [85, 170, 2, 2, 1, 151, 189] [85, 170, 2, 13, 241, 151, 189] :=
    .inr (.inr ⟨by decide, 28, by decide⟩)
  have refused := @decode_damaged _ _ [85, 170, 2, 13, 241, 151, 189] sent rfl damaged
  exact ⟨sent, damaged, (refused.2 rfl).trans (by decide +kernel)⟩

end MotionLink.Frame

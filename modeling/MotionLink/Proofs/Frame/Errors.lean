import Mathlib
import MotionLink.Proofs.Frame.Format

/-!
# The errors of a decoder

A frame is refused for something in the frame (`inFrame_of_decode`). The errors
of streams, that bytes are missing, too many or not to be had, are never a
decoder's, nor is a disagreement between values and layout.
-/

namespace MotionLink

open Refusal

/-- Whether an error is that of a stream and not of a frame. -/
def FrameError.ofStream : FrameError → Bool
  | truncatedFrame _ _ | bufferOverflow _ _ | io _ | connectionClosed => true
  | _ => false

/-- Whether an error says what is wrong with the bytes of a frame. -/
def FrameError.inFrame : FrameError → Bool
  | badMagic _ _ | unknownPacketType _ _ | tooShort _ | lengthMismatch _ _ _
  | checksumMismatch _ _ _ | malformedPacket _ _ _ => true
  | _ => false

theorem FrameError.ofStream_of_inFrame {error : FrameError} (inFrame : error.inFrame = true) :
    error.ofStream = false := by
  cases error <;> first | rfl | cases inFrame

namespace Frame

/-- The errors of a check are of three sorts: the length, the magic word and the
check value. -/
theorem inFrame_of_check {layout : Layout} {frame : Bytes} {error : FrameError}
    (refused : check layout frame = .error error) : error.inFrame = true := by
  simp only [check] at refused
  split at refused
  · cases refused
    rfl
  · split at refused
    · cases refused
      rfl
    · split at refused
      · cases refused
        rfl
      · cases refused

/-- The errors of a reading, by the row of the table that describes its layout. -/
theorem inFrame_of_answer {format : Format} {frame : Bytes} {error : FrameError}
    (refused : format.answer frame = .error error) : error.inFrame = true := by
  unfold Format.answer at refused
  split at refused
  · cases refused
    rfl
  · cases refused

/-- A frame that passes its checks is read as the row of the table for its type
id says. This brings the errors of readers, of which there are many, down to
those of the table. -/
theorem read_eq_answer {direction : Direction} {layout : Layout} {frame : Bytes}
    (known : Layout.lookup direction (typeId frame) = .ok layout)
    (passed : check layout frame = .ok ()) :
    ∃ format : Format, read layout frame = format.answer frame := by
  cases row : Format.ofId? direction (typeId frame) with
  | none =>
    rw [lookup_of_ofId?_eq_none row] at known
    cases known
  | some format =>
    obtain ⟨layout', known', described⟩ := lookup_of_ofId?_eq_some row
    rw [known] at known'
    cases known'
    exact ⟨format, described.answer frame ((length_of_check passed).trans described.length)⟩

/-- A decoder refuses a frame for its bytes: for its length, its type, what a
check says, or a byte that is outside its domain. -/
theorem inFrame_of_decode {direction : Direction} {frame : Bytes} {error : FrameError}
    (refused : decode direction frame = .error error) : error.inFrame = true := by
  unfold decode at refused
  split at refused
  · cases refused
    rfl
  · obtain unknown | ⟨layout, known, refused⟩ := bind_eq_error.mp refused
    · rw [Layout.lookup_eq_error unknown]
      rfl
    · obtain failed | ⟨_, passed, refused⟩ := bind_eq_error.mp refused
      · exact inFrame_of_check failed
      · obtain ⟨format, same⟩ := read_eq_answer known passed
        rw [same] at refused
        exact inFrame_of_answer refused

theorem ofStream_of_decode {direction : Direction} {frame : Bytes} {error : FrameError}
    (refused : decode direction frame = .error error) : error.ofStream = false :=
  FrameError.ofStream_of_inFrame (inFrame_of_decode refused)

theorem ofStream_of_decodeCommand {frame : Bytes} {error : FrameError}
    (refused : decodeCommand frame = .error error) : error.ofStream = false := by
  obtain failed | ⟨packet, -, refused⟩ := bind_eq_error.mp refused
  · exact ofStream_of_decode failed
  · cases packet with
    | command command => cases refused
    | feedback feedback =>
      cases refused
      rfl

theorem ofStream_of_decodeFeedback {frame : Bytes} {error : FrameError}
    (refused : decodeFeedback frame = .error error) : error.ofStream = false := by
  obtain failed | ⟨packet, -, refused⟩ := bind_eq_error.mp refused
  · exact ofStream_of_decode failed
  · cases packet with
    | feedback feedback => cases refused
    | command command =>
      cases refused
      rfl

end Frame

end MotionLink

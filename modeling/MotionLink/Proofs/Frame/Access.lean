import Mathlib
import MotionLink.Frame
import MotionLink.Proofs.Frame.Parts
import MotionLink.Proofs.Layout.Lookup

/-!
# Accesses stay in range

`Frame.decode` slices freely: a slice past the end is a shorter slice. Here is
the decoder in which nothing is clamped. `slice?`, `word16?` and `word32?` and
an index `frame[i]?` have no answer when they leave the bytes at hand, a
difference of lengths has none below zero, and the first access without an
answer leaves the whole decoder without one. The check value and the stored
trailer are compared where the decoder reads them, not through
`Checksum.valid`.

`decode?_eq` says that the strict decoder always has an answer, the one of
`Frame.decode`: whatever the bytes, no access is out of range.
-/

namespace MotionLink

open Refusal

/-! ## Strict accesses -/

namespace Bytes

/-- The bytes from `start` to `stop`, none when these are not in the run. -/
def slice? (bytes : Bytes) (start stop : Nat) : Option Bytes :=
  if start ≤ stop ∧ stop ≤ bytes.length then some (bytes.slice start (stop - start)) else none

/-- The 16-bit word at an index. -/
def word16? (bytes : Bytes) (index : Nat) : Option UInt16 := do
  let low ← bytes[index]?
  let high ← bytes[index + 1]?
  return LittleEndian.word16 [low, high]

/-- The 32-bit word at an index. -/
def word32? (bytes : Bytes) (index : Nat) : Option UInt32 := do
  let byte0 ← bytes[index]?
  let byte1 ← bytes[index + 1]?
  let byte2 ← bytes[index + 2]?
  let byte3 ← bytes[index + 3]?
  return LittleEndian.word32 [byte0, byte1, byte2, byte3]

/-- A slice in range, byte by byte. -/
theorem slice_eq_cons {bytes : Bytes} {index width : Nat} (inside : index < bytes.length) :
    bytes.slice index (width + 1) = bytes[index] :: bytes.slice (index + 1) width := by
  rw [slice, List.drop_eq_getElem_cons inside, List.take_succ_cons]
  rfl

theorem slice_zero_width (bytes : Bytes) (index : Nat) : bytes.slice index 0 = [] := List.take_zero

variable {bytes : Bytes} {index : Nat}

theorem slice?_eq {start stop : Nat} (lower : start ≤ stop) (upper : stop ≤ bytes.length) :
    bytes.slice? start stop = some (bytes.slice start (stop - start)) := if_pos ⟨lower, upper⟩

/-- The byte at an index in range is that of the slice of one byte. -/
theorem getElem?_eq_slice (inside : index + 1 ≤ bytes.length) :
    bytes[index]? = some (LittleEndian.byte (bytes.slice index 1)) := by
  rw [slice_eq_cons inside, slice_zero_width, LittleEndian.byte_singleton,
    List.getElem?_eq_getElem inside]

theorem word16?_eq (inside : index + 2 ≤ bytes.length) :
    bytes.word16? index = some (LittleEndian.word16 (bytes.slice index 2)) := by
  have first : index < bytes.length := by omega
  have second : index + 1 < bytes.length := by omega
  rw [slice_eq_cons first, slice_eq_cons second, slice_zero_width, word16?,
    List.getElem?_eq_getElem first, List.getElem?_eq_getElem second]
  rfl

theorem word32?_eq (inside : index + 4 ≤ bytes.length) :
    bytes.word32? index = some (LittleEndian.word32 (bytes.slice index 4)) := by
  have first : index < bytes.length := by omega
  have second : index + 1 < bytes.length := by omega
  have third : index + 2 < bytes.length := by omega
  have fourth : index + 3 < bytes.length := by omega
  rw [slice_eq_cons first, slice_eq_cons second, slice_eq_cons third, slice_eq_cons fourth,
    slice_zero_width, word32?, List.getElem?_eq_getElem first, List.getElem?_eq_getElem second,
    List.getElem?_eq_getElem third, List.getElem?_eq_getElem fourth]
  rfl

end Bytes

/-! ## The strict decoder -/

/-- The value in the bytes of a field: nothing for a reserved field, no answer
when the bytes do not reach. -/
def FieldKind.readStrict? (kind : FieldKind) (bytes : Bytes) : Option (Option FieldValue) :=
  match kind with
  | byte => do return some (.byte (← bytes[0]?))
  | word16 => do return some (.word16 (← bytes.word16? 0))
  | word32 => do return some (.word32 (← bytes.word32? 0))
  | real => do return some (.real ⟨← bytes.word32? 0⟩)
  | coefficients => do
    let terms ← (List.range coefficientCount).mapM fun i => bytes.word32? (4 * i)
    if count : (terms.map Binary32.mk).length = coefficientCount then
      return some (.coefficients ⟨terms.map Binary32.mk, count⟩)
    else none
  | reserved _ => some none

namespace Layout

/-- Reads the values of fields that follow each other from an offset on. -/
def unpackFields? (payload : Bytes) : List Field → Nat → Option (List FieldValue)
  | [], _ => some []
  | field :: fields, offset => do
    let bytes ← payload.slice? offset (offset + field.kind.width)
    let value ← field.kind.readStrict? bytes
    let values ← unpackFields? payload fields (offset + field.kind.width)
    return value.toList ++ values

/-- The values of a payload. -/
def unpack? (layout : Layout) (payload : Bytes) : Option (Except FrameError (List FieldValue)) :=
  if payload.length = layout.payloadLength then .ok <$> unpackFields? payload layout.fields 0
  else some (.error (.lengthMismatch layout.kind layout.frameLength
    (layout.headerLength + payload.length + Checksum.width)))

end Layout

namespace Frame

/-- Where the trailer of a frame starts. -/
def trailerStart? (frame : Bytes) : Option Nat :=
  if Checksum.width ≤ frame.length then some (frame.length - Checksum.width) else none

/-- Checks a frame against the layout of its type. -/
def check? (layout : Layout) (frame : Bytes) : Option (Except FrameError Unit) :=
  if frame.length ≠ layout.frameLength then
    some (.error (.lengthMismatch layout.kind layout.frameLength frame.length))
  else do
    let expected := layout.kind.direction.magic
    let found ← frame.word16? 0
    if found ≠ expected then return .error (.badMagic expected found)
    let stop ← trailerStart? frame
    let stored ← frame.word16? stop
    let computed := Checksum.ofBytes (← frame.slice? 0 stop)
    if stored ≠ computed then return .error (.checksumMismatch layout.kind stored computed)
    return .ok ()

/-- The packet of a frame that passes `check?`. -/
def read? (layout : Layout) (frame : Bytes) : Option (Except FrameError Packet) := do
  let stop ← trailerStart? frame
  let segment ← frame[segmentOffset]?
  let payload ← frame.slice? layout.headerLength stop
  match ← layout.unpack? payload with
  | .error error => return .error error
  | .ok values =>
    match layout.kind with
    | .command kind =>
      return do
        let body ← (CommandBody.read kind).run' (.start layout values)
        return .command ⟨⟨segment⟩, body⟩
    | .feedback kind =>
      let bytes ← frame.slice? timestampOffset (timestampOffset + 4)
      let timestamp ← bytes.word32? 0
      return do
        let body ← (FeedbackBody.read kind).run' (.start layout values)
        return .feedback ⟨⟨segment⟩, timestamp, body⟩

/-- The packet of a frame that travels in `direction`. -/
def decode? (direction : Direction) (frame : Bytes) : Option (Except FrameError Packet) :=
  if frame.length < probeLength then some (.error (.tooShort frame.length))
  else do
    let id ← frame[typeOffset]?
    match Layout.lookup direction id with
    | .error error => return .error error
    | .ok layout =>
      match ← check? layout frame with
      | .error error => return .error error
      | .ok () => read? layout frame

end Frame

/-! ## Every access has an answer -/

/-- A step that has an answer for each element has one for the list. -/
theorem mapM_eq_some {α β : Type} {list : List α} {step : α → Option β} {answer : α → β}
    (each : ∀ a ∈ list, step a = some (answer a)) : list.mapM step = some (list.map answer) := by
  induction list with
  | nil => rfl
  | cons a list ih =>
    have others := ih fun b mem => each b (List.mem_cons_of_mem a mem)
    rw [List.mapM_cons, each a List.mem_cons_self, others]
    rfl

theorem Bytes.slice_zero {bytes : Bytes} {width : Nat} (length : bytes.length = width) :
    bytes.slice 0 width = bytes := by
  rw [slice, List.drop_zero, List.take_of_length_le (Nat.le_of_eq length)]

/-- A slice in range has its width, which is what clamping would take away. -/
theorem Bytes.length_slice {bytes : Bytes} {start width : Nat}
    (inside : start + width ≤ bytes.length) : (bytes.slice start width).length = width := by
  rw [slice, List.length_take, List.length_drop]
  omega

/-- The bytes of a field hold its value: where there are as many as the field is
wide, each index that the reader uses is one of them. -/
theorem FieldKind.readStrict?_eq {kind : FieldKind} {bytes : Bytes}
    (length : bytes.length = kind.width) : kind.readStrict? bytes = some (kind.read? bytes) := by
  have whole := Bytes.slice_zero length
  have word32 (four : bytes.length = 4) :
      bytes.word32? 0 = some (LittleEndian.word32 bytes) := by
    rw [Bytes.word32?_eq (by omega), Bytes.slice_zero four]
  cases kind with
  | byte =>
    have first : bytes[0]? = some (LittleEndian.byte bytes) := by
      rw [Bytes.getElem?_eq_slice (Nat.le_of_eq length.symm)]
      exact congrArg (some ∘ LittleEndian.byte) whole
    rw [readStrict?, first]
    rfl
  | word16 =>
    have both : bytes.word16? 0 = some (LittleEndian.word16 bytes) := by
      rw [Bytes.word16?_eq (Nat.le_of_eq length.symm)]
      exact congrArg (some ∘ LittleEndian.word16) whole
    rw [readStrict?, both]
    rfl
  | word32 =>
    rw [readStrict?, word32 length]
    rfl
  | real =>
    rw [readStrict?, word32 length]
    rfl
  | coefficients =>
    have terms : (List.range coefficientCount).mapM (fun i => bytes.word32? (4 * i)) =
        some ((List.range coefficientCount).map fun i =>
          LittleEndian.word32 (bytes.slice (4 * i) 4)) := by
      refine mapM_eq_some fun i inside => Bytes.word32?_eq ?_
      have below := List.mem_range.mp inside
      rw [length, width]
      omega
    rw [readStrict?, terms]
    simp only [Option.bind_eq_bind, Option.bind_some, List.map_map, List.length_map,
      List.length_range, dite_true, Option.pure_def, read?]
    rfl
  | reserved width => rfl

namespace Layout

/-- Fields that lie within a payload are all read. The induction is on the
fields with the offset open: one field further the fields behind it still lie
within. -/
theorem unpackFields?_eq {payload : Bytes} {fields : List Field} {offset : Nat}
    (inside : offset + fields.foldr (·.kind.width + ·) 0 ≤ payload.length) :
    unpackFields? payload fields offset = some (unpackFields fields (payload.drop offset)) := by
  induction fields generalizing offset with
  | nil => rfl
  | cons field fields ih =>
    simp only [List.foldr_cons] at inside
    have here : offset + field.kind.width ≤ payload.length := by omega
    have length := Bytes.length_slice here
    have rest := @ih (offset + field.kind.width) (by omega)
    rw [unpackFields?, Bytes.slice?_eq (Nat.le_add_right ..) here, Nat.add_sub_cancel_left]
    simp only [Option.bind_eq_bind, Option.bind_some, FieldKind.readStrict?_eq length, rest,
      Option.pure_def]
    rw [unpackFields, List.drop_drop]
    rfl

/-- Unpacking checks the length itself, so it has an answer for any payload,
also for one that no layout would have. -/
theorem unpack?_eq (layout : Layout) (payload : Bytes) :
    layout.unpack? payload = some (layout.unpack payload) := by
  unfold unpack? unpack
  split
  · rename_i length
    have inside : 0 + layout.fields.foldr (·.kind.width + ·) 0 ≤ payload.length := by
      rw [length, Nat.zero_add]
      exact Nat.le_refl _
    rw [unpackFields?_eq inside, List.drop_zero]
    rfl
  · rfl

end Layout

namespace Frame

/-- A frame that is long enough for a trailer has one, and no difference is
below zero. -/
theorem trailerStart?_eq {frame : Bytes} (trailing : Checksum.width ≤ frame.length) :
    trailerStart? frame = some (frame.length - Checksum.width) := if_pos trailing

/-- A frame is checked without leaving it: its trailer is read only where its length is that of
a layout. -/
theorem check?_eq {layout : Layout} (sized : 6 ≤ layout.frameLength) (frame : Bytes) :
    check? layout frame = some (check layout frame) := by
  unfold check? check
  by_cases length : frame.length = layout.frameLength
  · have trailing : Checksum.width ≤ frame.length := by
      simp only [Checksum.width]
      omega
    -- The length is checked first, and puts the magic word and the trailer within the frame.
    have found : frame.word16? 0 = some (magic frame) := Bytes.word16?_eq (by omega)
    have content : frame.slice? 0 (frame.length - Checksum.width) =
        some (Checksum.content frame) := Bytes.slice?_eq (Nat.zero_le _) (Nat.sub_le ..)
    have stored : frame.word16? (frame.length - Checksum.width) =
        some (LittleEndian.word16 (Checksum.trailer frame)) := by
      have inside : frame.length - Checksum.width + 2 ≤ frame.length := by
        simp only [Checksum.width] at trailing ⊢
        omega
      rw [Bytes.word16?_eq inside, Bytes.slice, Checksum.trailer, List.take_of_length_le]
      simp only [List.length_drop, Checksum.width] at trailing ⊢
      omega
    have agrees : Checksum.valid frame = true ↔ LittleEndian.word16 (Checksum.trailer frame) =
        Checksum.ofBytes (Checksum.content frame) :=
      Checksum.valid_iff.trans (and_iff_right trailing)
    rw [if_neg (not_not.mpr length), if_neg (not_not.mpr length), found]
    by_cases expected : magic frame = layout.kind.direction.magic
    · simp only [expected, ne_eq, not_true_eq_false, if_false, trailerStart?_eq trailing, stored,
        content, Option.bind_eq_bind, Option.bind_some, Option.pure_def]
      by_cases valid : Checksum.valid frame = true
      · simp only [valid, agrees.mp valid, not_true_eq_false, if_false, Bool.not_true,
          Bool.false_eq_true]
      · simp only [valid, mt agrees.mpr valid, not_false_eq_true, if_true, Bool.not_false]
    · simp only [expected, ne_eq, not_false_eq_true, if_true, Option.bind_eq_bind,
        Option.bind_some, Option.pure_def]
  · simp only [length, ne_eq, not_false_eq_true, if_true]

/-- A frame of its layout's length is read without leaving it. The length leaves
room for the header and the trailer, so the payload between them is a slice in
range. -/
theorem read?_eq {layout : Layout} {frame : Bytes} (length : frame.length = layout.frameLength) :
    read? layout frame = some (read layout frame) := by
  have header : layout.kind.direction.headerLength + layout.payloadLength + 2 = frame.length :=
    length.symm
  have trailing : Checksum.width ≤ frame.length := header ▸ Nat.le_add_left ..
  have segmentIn : segmentOffset + 1 ≤ frame.length := by
    cases h : layout.kind.direction <;> simp only [h, Direction.headerLength] at header <;>
      simp only [segmentOffset] <;> omega
  have payloadIn : frame.slice? layout.headerLength (frame.length - Checksum.width) =
      some ((Checksum.content frame).drop layout.headerLength) := by
    rw [Bytes.slice?_eq, Bytes.slice, Checksum.content, List.drop_take]
    · rw [Layout.headerLength, Checksum.width]
      omega
    · exact Nat.sub_le ..
  unfold read? read
  rw [trailerStart?_eq trailing, Bytes.getElem?_eq_slice segmentIn]
  simp only [Option.bind_eq_bind, Option.bind_some, payloadIn, Layout.unpack?_eq]
  cases layout.unpack ((Checksum.content frame).drop layout.headerLength) with
  | error error => rfl
  | ok values =>
    cases kind : layout.kind with
    | command kind => rfl
    | feedback kind' =>
      have stampIn : timestampOffset + 4 ≤ frame.length := by
        simp only [kind, PacketKind.direction, Direction.headerLength] at header
        simp only [timestampOffset]
        omega
      have length := Bytes.length_slice stampIn
      have stamp : frame.slice? timestampOffset (timestampOffset + 4) =
          some (frame.slice timestampOffset 4) := Bytes.slice?_eq (Nat.le_add_right ..) stampIn
      simp only [stamp, Option.bind_some, Bytes.word32?_eq (Nat.le_of_eq length.symm),
        Bytes.slice_zero length]
      rfl

/-- A frame that passes the checks of a layout has its length. -/
theorem length_of_check {layout : Layout} {frame : Bytes} (passed : check layout frame = .ok ()) :
    frame.length = layout.frameLength := by
  unfold check at passed
  split at passed
  · cases passed
  · rename_i length
    exact not_not.mp length

/-- No access of the decoder is out of range: the strict decoder always answers,
and as the decoder does. The length of a frame is checked first, and every later
access lies within a frame of that length. -/
theorem decode?_eq (direction : Direction) (frame : Bytes) :
    decode? direction frame = some (decode direction frame) := by
  unfold decode? decode
  split
  · rfl
  · rename_i long
    have id : frame[typeOffset]? = some (typeId frame) :=
      Bytes.getElem?_eq_slice (Nat.not_lt.mp long)
    rw [id, Option.bind_eq_bind, Option.bind_some]
    cases known : Layout.lookup direction (typeId frame) with
    | error error => rfl
    | ok layout =>
      have sized := (Layout.frameLength_bounds (Layout.lookup_eq_ok known).1).1
      simp only [check?_eq sized, ok_bind]
      cases passed : check layout frame with
      | error error => rfl
      | ok _ => exact read?_eq (length_of_check passed)

end Frame

end MotionLink

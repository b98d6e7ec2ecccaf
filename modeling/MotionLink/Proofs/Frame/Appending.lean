import Mathlib
import MotionLink.Proofs.Frame.Objections

/-!
# Frames written in place

`Frame.append` puts a frame behind the bytes in a buffer all at once. Here the
frame is written piece by piece into the buffer itself: header, fields and check
value, each behind what is there already, with the place where the frame started
kept in mind. The check value is taken over the bytes since then, the length
counted from there, and when a piece is refused the buffer is cut off at that
place (`Frame.appendInPlace`).

A writer only ever adds behind what is in the buffer (`BufferWriter.Extends`), so
cutting it off leaves the buffer as it was, whatever had been written; and no
piece depends on the bytes before it, so both ways leave the same
(`Frame.appendInPlace_eq`).
-/

namespace MotionLink

open Refusal

/-! ## Writing behind the bytes in a buffer -/

/-- A step that writes to a buffer. What it wrote before it was refused stays in the buffer. -/
abbrev BufferWriter (α : Type) := ExceptT FrameError (StateM Bytes) α

namespace BufferWriter

variable {α β : Type}

/-- How a step ends on a buffer, and the buffer afterwards. -/
def on (writer : BufferWriter α) (buffer : Bytes) : Except FrameError α × Bytes :=
  (writer.run.run buffer : Id _)

/-- Puts bytes behind those in the buffer. -/
def put (bytes : Bytes) : BufferWriter Unit := modify (· ++ bytes)

/-- Runs a writer, and cuts off what it wrote if it is refused. -/
def orTruncate (writer : BufferWriter Unit) : BufferWriter Unit := ExceptT.mk fun buffer =>
  match writer.on buffer with
  | (.ok (), after) => (.ok (), after)
  | (.error error, after) => (.error error, after.take buffer.length)

@[simp] theorem on_pure (a : α) (buffer : Bytes) :
    (pure a : BufferWriter α).on buffer = (.ok a, buffer) := rfl

@[simp] theorem on_put (bytes buffer : Bytes) :
    (put bytes).on buffer = (.ok (), buffer ++ bytes) := rfl

@[simp] theorem on_get (buffer : Bytes) :
    (get : BufferWriter Bytes).on buffer = (.ok buffer, buffer) := rfl

/-- A step that does not write leaves the buffer as it is, refused or not. -/
@[simp] theorem on_lift (step : Except FrameError α) (buffer : Bytes) :
    (liftM step : BufferWriter α).on buffer = (step, buffer) := rfl

/-- A writer that goes through keeps what it wrote; a refused one is cut off
where it started. -/
theorem on_orTruncate (writer : BufferWriter Unit) (buffer : Bytes) :
    writer.orTruncate.on buffer = match writer.on buffer with
      | (.ok (), after) => (.ok (), after)
      | (.error error, after) => (.error error, after.take buffer.length) := rfl

/-- A step goes on where the one before it left the buffer, and a refusal leaves
it there. -/
theorem on_bind (first : BufferWriter α) (rest : α → BufferWriter β) (buffer : Bytes) :
    (first >>= rest).on buffer = match first.on buffer with
      | (.ok a, after) => (rest a).on after
      | (.error error, after) => (.error error, after) := by
  have step : (first >>= rest).on buffer = match first.on buffer with
      | (outcome, after) => (ExceptT.bindCont rest outcome : StateM Bytes _).run after := rfl
  rw [step]
  cases first.on buffer with
  | mk outcome after => cases outcome <;> rfl

/-! ## Writers keep what is in the buffer -/

/-- A step that leaves the bytes in the buffer where they are, however it ends.
All that the writers below do is put together from such steps. -/
def Extends (writer : BufferWriter α) : Prop := ∀ buffer, buffer <+: (writer.on buffer).2

theorem extends_put (bytes : Bytes) : (put bytes).Extends := by
  intro buffer
  exact List.prefix_append buffer bytes

theorem extends_pure (a : α) : (pure a : BufferWriter α).Extends := by
  intro buffer
  exact List.prefix_refl buffer

theorem extends_throw (error : FrameError) : (throw error : BufferWriter α).Extends := by
  intro buffer
  exact List.prefix_refl buffer

theorem extends_get : (get : BufferWriter Bytes).Extends := by
  intro buffer
  exact List.prefix_refl buffer

/-- A step behind another keeps what the first has kept, whichever way the first
ends. -/
theorem Extends.bind {first : BufferWriter α} {rest : α → BufferWriter β}
    (one : first.Extends) (others : ∀ a, (rest a).Extends) : (first >>= rest).Extends := by
  intro buffer
  have kept := one buffer
  rw [on_bind]
  cases ran : first.on buffer with
  | mk outcome after =>
    rw [ran] at kept
    cases outcome with
    | ok a => exact kept.trans (others a after)
    | error error => exact kept

/-- What a refused writer wrote is all taken back: what is left is a prefix of
the buffer and as long as the buffer was. -/
theorem Extends.truncated {writer : BufferWriter Unit} (kept : writer.Extends) {buffer : Bytes}
    {error : FrameError} (refused : (writer.orTruncate.on buffer).1 = .error error) :
    (writer.orTruncate.on buffer).2 = buffer := by
  have start := kept buffer
  rw [on_orTruncate] at refused ⊢
  cases ran : writer.on buffer with
  | mk outcome after =>
    rw [ran] at start refused
    cases outcome with
    | ok _ => cases refused
    | error _ => exact (List.prefix_iff_eq_take.mp start).symm

end BufferWriter

open BufferWriter

/-! ## Fields -/

namespace Layout

/-- Writes values into fields one by one, up to the first field at which they disagree. -/
def packInto (packet : PacketKind) : List Field → List FieldValue → BufferWriter Unit
  | [], [] => pure ()
  | [], _ :: _ => throw (.layoutMismatch packet "<trailing value>")
  | field :: fields, values =>
    match field.kind, values with
    | .reserved width, values => do
      put (List.replicate width 0)
      packInto packet fields values
    | _, [] => throw (.layoutMismatch packet field.name)
    | kind, value :: values =>
      if value.kind = kind then do
        put value.bytes
        packInto packet fields values
      else throw (.layoutMismatch packet field.name)

variable {packet : PacketKind}

theorem packInto_reserved (name : String) (width : Nat) (fields : List Field)
    (values : List FieldValue) :
    packInto packet (⟨name, .reserved width⟩ :: fields) values =
      (put (List.replicate width 0) >>= fun _ => packInto packet fields values) := by
  cases values <;> rfl

/-- Any other field writes the value in front, if it is of its kind. -/
theorem packInto_value (name : String) (value : FieldValue) (fields : List Field)
    (values : List FieldValue) :
    packInto packet (⟨name, value.kind⟩ :: fields) (value :: values) =
      (put value.bytes >>= fun _ => packInto packet fields values) := by
  cases value <;> simp only [FieldValue.kind, packInto, if_true]

/-- Fields are written behind the bytes in the buffer. The induction follows the
fields, with the buffer open, since each field finds the one before it there. -/
theorem on_packInto {fields : List Field} {values : List FieldValue} {payload : Bytes}
    (packed : packFields fields values = .ok payload) (buffer : Bytes) :
    (packInto packet fields values).on buffer = (.ok (), buffer ++ payload) := by
  induction fields generalizing values payload buffer with
  | nil =>
    cases values with
    | nil =>
      cases packed
      rw [List.append_nil]
      rfl
    | cons value values => cases packed
  | cons field fields ih =>
    obtain ⟨name, kind⟩ := field
    obtain ⟨width, rest, rfl, tail, rfl⟩ | ⟨value, values', rest, rfl, rfl, tail, rfl⟩ :=
      packFields_cons packed
    · rw [packInto_reserved, on_bind, on_put, ← List.append_assoc]
      exact ih tail _
    · rw [packInto_value, on_bind, on_put, ← List.append_assoc]
      exact ih tail _

/-- Writing fields into a buffer is refused where packing is, and under the same
field. What is in the buffer has no part in it. -/
theorem fst_on_packInto (fields : List Field) (values : List FieldValue) (buffer : Bytes) :
    ((packInto packet fields values).on buffer).1 =
      (fun _ => ()) <$> (packFields fields values).mapError (.layoutMismatch packet) := by
  induction fields generalizing values buffer with
  | nil => cases values <;> rfl
  | cons field fields ih =>
    obtain ⟨name, kind⟩ := field
    cases kind with
    | reserved width =>
      rw [packInto_reserved, packFields_reserved, on_bind, on_put, ih]
      cases packFields fields values <;> rfl
    | _ =>
      cases values with
      | nil => rfl
      | cons value values =>
        simp only [packInto, packFields]
        split
        · rw [on_bind, on_put, ih]
          cases packFields fields values <;> rfl
        · rfl

/-- Fields are written behind the buffer, up to the one that is refused. -/
theorem extends_packInto (fields : List Field) (values : List FieldValue) :
    (packInto packet fields values).Extends := by
  induction fields generalizing values with
  | nil =>
    cases values with
    | nil => exact extends_pure ()
    | cons value values => exact extends_throw _
  | cons field fields ih =>
    unfold packInto
    split
    · exact (extends_put _).bind fun _ => ih _
    · exact extends_throw _
    · split
      · exact (extends_put _).bind fun _ => ih _
      · exact extends_throw _

end Layout

/-! ## Frames -/

namespace Frame

/-- Writes the frame of a packet with the layout of its type. -/
def write (layout : Layout) (packet : Packet) : BufferWriter Unit := do
  let start := (← get).length
  put (LittleEndian.ofWord16 packet.direction.magic)
  put [layout.kind.id]
  put [packet.segment.id]
  put packet.stamp
  Layout.packInto layout.kind layout.fields packet.values
  let frame := (← get).drop start
  put (LittleEndian.ofWord16 (Checksum.ofBytes frame))
  let written := (← get).length - start
  if written = layout.frameLength then pure ()
  else throw (.lengthMismatch layout.kind layout.frameLength written)

/-- Writes the frame of a packet into a buffer, which a refusal leaves as it was. -/
def appendInPlace (buffer : Bytes) (packet : Packet) : Except FrameError Unit × Bytes :=
  BufferWriter.on (do
    packet.validate
    let layout ← Layout.lookup packet.direction packet.kind.id
    (write layout packet).orTruncate) buffer

variable (packet : Packet) (buffer : Bytes)

/-- Whatever the layout, the bytes of the buffer stay where they are while a
frame is written. The proof goes through the steps of the writer, each of which
keeps them. -/
theorem extends_write (layout : Layout) : (write layout packet).Extends := by
  unfold write
  apply extends_get.bind
  intro start
  apply (extends_put _).bind
  intro _
  apply (extends_put _).bind
  intro _
  apply (extends_put _).bind
  intro _
  apply (extends_put _).bind
  intro _
  apply (Layout.extends_packInto _ _).bind
  intro _
  apply extends_get.bind
  intro frame
  apply (extends_put _).bind
  intro _
  apply extends_get.bind
  intro written
  dsimp only
  split
  · exact extends_pure ()
  · exact extends_throw _

example :
    let writer := write .jogMotor (.command ⟨⟨1⟩, .setZeroOffset⟩)
    let error : FrameError := .layoutMismatch (.command .jogMotor) "motor_id"
    writer.on [7] = (.error error, [7, 0x55, 0xAA, 7, 1]) ∧
      writer.orTruncate.on [7] = (.error error, [7]) := by decide +kernel

/-- The frame of a packet, written behind the bytes in a buffer. The check value
is taken over what has been written since the start, which is the header and the
payload. -/
theorem on_write {payload : Bytes} (packed : packet.layout.pack packet.values = .ok payload) :
    (write packet.layout packet).on buffer =
      (.ok (), buffer ++ Checksum.sealed (header packet ++ payload)) := by
  have fields := mapError_eq_ok.mp packed
  -- What stands behind the start is the header and the payload, in whatever pieces it was put.
  have body : buffer ++ LittleEndian.ofWord16 packet.direction.magic ++ [packet.kind.id] ++
      [packet.segment.id] ++ packet.stamp ++ payload = buffer ++ (header packet ++ payload) := by
    simp only [header, List.append_assoc, List.cons_append, List.nil_append]
  have length : (buffer ++ (header packet ++ payload) ++ LittleEndian.ofWord16
      (Checksum.ofBytes (header packet ++ payload))).length - buffer.length =
        packet.layout.frameLength := by
    rw [List.append_assoc, List.length_append, Nat.add_sub_cancel_left]
    exact length_sealed_header packed
  unfold write
  simp only [on_bind, on_get, on_put, Layout.on_packInto fields, kind_layout, body,
    List.drop_left, length, if_true, on_pure]
  rw [Checksum.sealed, List.append_assoc]

/-- Writing a frame in place is putting it behind the buffer at once. The
packets that pass validation fit their layouts, so nothing has to be taken back. -/
theorem appendInPlace_eq : appendInPlace buffer packet = append buffer packet := by
  obtain ⟨payload, packed⟩ := pack_values packet
  have written := on_write packet buffer packed
  cases sound : packet.validate with
  | error error =>
    simp only [appendInPlace, append, encode_eq packed, on_bind, on_lift, sound, error_bind]
  | ok _ =>
    simp only [appendInPlace, append, encode_eq packed, on_bind, on_lift, sound, ok_bind,
      lookup_layout, on_orTruncate, written]

/-! ## A whole frame or nothing -/

section

variable {packet : Packet} {error : FrameError}

/-- A packet that is encoded is put behind the buffer as a whole. -/
theorem append_of_encode {frame : Bytes} (sent : encode packet = .ok frame) (buffer : Bytes) :
    append buffer packet = (.ok (), buffer ++ frame) := by
  simp only [append, sent]

theorem append_of_refusal (refused : encode packet = .error error) (buffer : Bytes) :
    append buffer packet = (.error error, buffer) := by
  simp only [append, refused]

/-- The outcome of appending is that of encoding. -/
theorem append_eq_error_iff {buffer : Bytes} :
    (append buffer packet).1 = .error error ↔ encode packet = .error error := by
  cases sent : encode packet with
  | ok frame =>
    rw [append_of_encode sent]
    exact iff_of_false nofun nofun
  | error other => rw [append_of_refusal sent, Except.error.injEq, Except.error.injEq]

/-- A packet is refused for the first objection to its command. Feedback has
none, so it is never refused. -/
theorem encode_eq_error_iff_objection :
    encode packet = .error error ↔
      ∃ command fault, packet = .command command ∧ command.FirstObjection fault ∧
        error = .malformedCommand packet.kind fault := by
  rw [encode_eq_error_iff]
  cases packet with
  | feedback feedback => exact iff_of_false nofun nofun
  | command command =>
    constructor
    · intro refused
      simp only [Packet.validate, Command.validate] at refused
      split at refused
      · rename_i fault found
        exact ⟨command, fault, rfl, Command.fault?_eq_some_iff.mp found,
          (Except.error.inj refused).symm⟩
      · cases refused
    · rintro ⟨_, fault, ⟨⟩, first, rfl⟩
      simp only [Packet.validate, Command.validate, Command.fault?_eq_some_iff.mpr first]
      rfl

end

/-- Encoding puts a whole frame behind the bytes in a buffer or leaves the buffer
as it is. It writes into the buffer itself, and would take back what it wrote
with any layout that the packet does not fit. A packet is refused exactly for
the first objection to its command, and the frame of any other is the same
behind every buffer: magic word, type, segment and the timestamp of feedback,
the packed values, and the check value over all of it, in the length that is
registered for the type. -/
theorem append_atomic (packet : Packet) :
    (∀ buffer, appendInPlace buffer packet = append buffer packet) ∧
    (∀ layout buffer error, ((write layout packet).orTruncate.on buffer).1 = .error error →
      ((write layout packet).orTruncate.on buffer).2 = buffer) ∧
    (∀ buffer error, (append buffer packet).1 = .error error →
      (append buffer packet).2 = buffer) ∧
    (∀ buffer error, (append buffer packet).1 = .error error ↔
      ∃ command fault, packet = .command command ∧ command.FirstObjection fault ∧
        error = .malformedCommand packet.kind fault) ∧
    ∃ frame layout payload,
      (∀ buffer, (append buffer packet).1 = .ok () → (append buffer packet).2 = buffer ++ frame) ∧
      Layout.lookup packet.direction packet.kind.id = .ok layout ∧
      frame.length = layout.frameLength ∧ layout.pack packet.values = .ok payload ∧
      frame = Checksum.sealed (LittleEndian.ofWord16 packet.direction.magic ++
        [packet.kind.id, packet.segment.id] ++ packet.stamp ++ payload) ∧
      (∀ command, packet = .command command → packet.stamp = []) ∧
      (∀ feedback, packet = .feedback feedback →
        packet.stamp = LittleEndian.ofWord32 feedback.timestamp) ∧
      Checksum.valid frame = true := by
  obtain ⟨payload, packed⟩ := pack_values packet
  refine ⟨fun buffer => appendInPlace_eq packet buffer, ?_, ?_, ?_, ?_⟩
  · intro layout buffer error refused
    exact (extends_write packet layout).truncated refused
  · intro buffer error refused
    rw [append_of_refusal (append_eq_error_iff.mp refused)]
  · intro buffer error
    rw [append_eq_error_iff, encode_eq_error_iff_objection]
  · refine ⟨Checksum.sealed (header packet ++ payload), packet.layout, payload, ?_,
      lookup_layout packet, length_sealed_header packed, packed, rfl, ?_, ?_,
      Checksum.valid_sealed _⟩
    · intro buffer accepted
      cases sent : encode packet with
      | error _ =>
        rw [append_of_refusal sent] at accepted
        cases accepted
      | ok frame =>
        -- The packet has one payload, so the frame that was sent is the one named above.
        obtain ⟨-, payload', packed', rfl⟩ := encode_eq_ok_iff.mp sent
        cases packed.symm.trans packed'
        rw [append_of_encode sent]
    · rintro command rfl
      rfl
    · rintro feedback rfl
      rfl

end Frame

end MotionLink

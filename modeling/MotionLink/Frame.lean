import MotionLink.Layout.Registry
import MotionLink.Packet

/-!
# Frames

A frame is the magic word of its direction, a type id, a segment, the timestamp
of feedback, the payload of its layout and a checksum over all of it.
`Frame.encode` writes the frame of a packet and `Frame.decode` reads one back;
each refuses for the first reason it finds, in a fixed order.
-/

namespace MotionLink.Frame

/-- Bytes needed to see the type id. -/
def probeLength : Nat := 3

/-- Where the type id is. -/
def typeOffset : Nat := 2

/-- Where the segment is. -/
def segmentOffset : Nat := 3

/-- Where the timestamp of feedback is. -/
def timestampOffset : Nat := 4

/-- The word a frame starts with. -/
def magic (frame : Bytes) : UInt16 := LittleEndian.word16 (frame.slice 0 2)

/-- The type id of a frame that is long enough to have one. -/
def typeId (frame : Bytes) : UInt8 := LittleEndian.byte (frame.slice typeOffset 1)

/-- The segment of a frame. -/
def segment (frame : Bytes) : Segment := ⟨LittleEndian.byte (frame.slice segmentOffset 1)⟩

/-- The timestamp of a feedback frame. -/
def timestamp (frame : Bytes) : UInt32 := LittleEndian.word32 (frame.slice timestampOffset 4)

/-- The bytes of a packet's frame before the payload. -/
def header (packet : Packet) : Bytes :=
  LittleEndian.ofWord16 packet.direction.magic ++ [packet.kind.id, packet.segment.id] ++
    packet.stamp

/-- The frame of a packet. -/
def encode (packet : Packet) : Except FrameError Bytes := do
  packet.validate
  let layout ← Layout.lookup packet.direction packet.kind.id
  let payload ← layout.pack packet.values
  let frame := Checksum.sealed (header packet ++ payload)
  if frame.length = layout.frameLength then return frame
  else throw (.lengthMismatch layout.kind layout.frameLength frame.length)

/-- Puts the frame of a packet behind the bytes in a buffer, which a refusal leaves as they are. -/
def append (buffer : Bytes) (packet : Packet) : Except FrameError Unit × Bytes :=
  match encode packet with
  | .ok frame => (.ok (), buffer ++ frame)
  | .error error => (.error error, buffer)

/-- Checks a frame against the layout of its type: length, magic, then checksum. -/
def check (layout : Layout) (frame : Bytes) : Except FrameError Unit :=
  let expected := layout.kind.direction.magic
  if frame.length ≠ layout.frameLength then
    .error (.lengthMismatch layout.kind layout.frameLength frame.length)
  else if magic frame ≠ expected then .error (.badMagic expected (magic frame))
  else if !Checksum.valid frame then
    .error (.checksumMismatch layout.kind (LittleEndian.word16 (Checksum.trailer frame))
      (Checksum.ofBytes (Checksum.content frame)))
  else .ok ()

/-- The packet of a frame that passes `check`. -/
def read (layout : Layout) (frame : Bytes) : Except FrameError Packet := do
  let values ← layout.unpack ((Checksum.content frame).drop layout.headerLength)
  let cursor := FieldCursor.start layout values
  match layout.kind with
  | .command kind =>
    return .command ⟨segment frame, ← (CommandBody.read kind).run' cursor⟩
  | .feedback kind =>
    return .feedback ⟨segment frame, timestamp frame, ← (FeedbackBody.read kind).run' cursor⟩

/-- The packet of a frame that travels in `direction`. -/
def decode (direction : Direction) (frame : Bytes) : Except FrameError Packet :=
  if frame.length < probeLength then .error (.tooShort frame.length)
  else do
    let layout ← Layout.lookup direction (typeId frame)
    check layout frame
    read layout frame

/-- The command of a frame. -/
def decodeCommand (frame : Bytes) : Except FrameError Command := do
  match ← decode .masterToBoard frame with
  | .command command => return command
  | .feedback feedback => throw (.unknownPacketType .masterToBoard feedback.kind.id)

/-- The feedback of a frame. -/
def decodeFeedback (frame : Bytes) : Except FrameError Feedback := do
  match ← decode .boardToMaster frame with
  | .feedback feedback => return feedback
  | .command command => throw (.unknownPacketType .boardToMaster command.kind.id)

end MotionLink.Frame

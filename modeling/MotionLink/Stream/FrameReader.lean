import MotionLink.Stream.Reassembler
import MotionLink.Stream.Source

/-!
# Reading frames from a source

A reader takes bytes from a source until a whole frame is there. It asks for so
few at a time that what a drained buffer may still hold and what arrives never
exceed the limit. An interrupted read is repeated; any other failure is
reported and loses no byte. The end of the stream is regular between two frames
and cuts off a frame otherwise.
-/

namespace MotionLink

/-- A source, and the bytes taken from it that have not been given out. -/
structure FrameReader where
  settings : StreamSettings
  reassembler : Reassembler
  source : Source
  /-- Bytes asked for at a time. -/
  chunk : Nat
  chunk_pos : 0 < chunk

namespace FrameReader

/-- A reader at the start of a source. -/
def new (direction : Direction) (settings : StreamSettings) (events : List ReadEvent) :
    FrameReader :=
  let reassembler := Reassembler.new direction settings
  let headroom := reassembler.limit - Layout.maxFrameLength
  ⟨settings, reassembler, ⟨events, []⟩, max 1 (min settings.readChunk headroom), by omega⟩

/-- The direction of the frames. -/
def direction (r : FrameReader) : Direction := r.reassembler.direction

/-- The bytes of the next frame. -/
def readFrame (r : FrameReader) : Except FrameError Bytes × FrameReader :=
  match r.reassembler.nextFrame with
  | (.error error, held) => (.error error, { r with reassembler := held })
  | (.ok (some frame), held) => (.ok frame, { r with reassembler := held })
  | (.ok none, held) =>
    match h : r.source.read r.chunk with
    | (.error failure, source) =>
      if failure.kind = .interrupted then
        have : source.supply < r.source.supply := Source.supply_read_lt h r.chunk_pos (by simp)
        readFrame { r with reassembler := held, source := source }
      else (.error (.io failure), { r with reassembler := held, source := source })
    | (.ok [], source) =>
      let (outcome, held) := held.finish
      (outcome.bind fun () => .error .connectionClosed,
        { r with reassembler := held, source := source })
    | (.ok (byte :: bytes), source) =>
      match held.push (byte :: bytes) with
      | (.error error, held) => (.error error, { r with reassembler := held, source := source })
      | (.ok (), held) =>
        have : source.supply < r.source.supply := Source.supply_read_lt h r.chunk_pos (by simp)
        readFrame { r with reassembler := held, source := source }
  termination_by r.source.supply

/-- The packet of the next frame. -/
def readPacket (r : FrameReader) : Except FrameError Packet × FrameReader :=
  let (frame, r) := r.readFrame
  (frame.bind (Frame.decode r.direction), r)

/-- The command of the next frame. -/
def readCommand (r : FrameReader) : Except FrameError Command × FrameReader :=
  let (frame, r) := r.readFrame
  (frame.bind Frame.decodeCommand, r)

/-- The feedback of the next frame. -/
def readFeedback (r : FrameReader) : Except FrameError Feedback × FrameReader :=
  let (frame, r) := r.readFrame
  (frame.bind Frame.decodeFeedback, r)

end FrameReader

end MotionLink

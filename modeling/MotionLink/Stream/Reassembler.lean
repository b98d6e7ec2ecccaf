import MotionLink.Stream.Splitter

/-!
# Reassembling packets from a bounded buffer

A reassembler takes in chunks of a stream, cut anywhere, and gives the frames
or packets they make up. It holds a limited number of bytes: a chunk that would
exceed the limit is refused and all bytes are forgotten. The limit leaves room
for the longest frame, whatever was asked for.
-/

namespace MotionLink

/-- How a stream is read. -/
structure StreamSettings where
  /-- Bytes asked for at a time. -/
  readChunk : Nat := 1024
  /-- Bytes that may wait to be taken as frames. -/
  maxBuffered : Nat := 65536
  deriving DecidableEq, Repr

/-- A splitter with a limit on the bytes it holds. -/
structure Reassembler where
  limit : Nat
  splitter : Splitter
  deriving DecidableEq, Repr

namespace Reassembler

/-- A reassembler that has seen no bytes. -/
def new (direction : Direction) (settings : StreamSettings) : Reassembler :=
  ⟨max settings.maxBuffered Layout.maxFrameLength, Splitter.start direction⟩

/-- The direction of the frames. -/
def direction (r : Reassembler) : Direction := r.splitter.direction

/-- What is known of the frame at the front. -/
def stage (r : Reassembler) : Stage := r.splitter.stage

/-- How many bytes wait to be taken as frames. -/
def buffered (r : Reassembler) : Nat := r.splitter.buffer.length

/-- Forgets all bytes. -/
def reset (r : Reassembler) : Reassembler := { r with splitter := r.splitter.reset }

/-- Takes in a chunk, unless that exceeds the limit. -/
def push (r : Reassembler) (chunk : Bytes) : Except FrameError Unit × Reassembler :=
  let size := r.buffered + chunk.length
  if r.limit < size then (.error (.bufferOverflow size r.limit), r.reset)
  else (.ok (), { r with splitter := r.splitter.extend chunk })

/-- The next frame, if all of it has arrived. -/
def nextFrame (r : Reassembler) : Except FrameError (Option Bytes) × Reassembler :=
  let (frame, splitter) := r.splitter.next
  (frame, { r with splitter := splitter })

/-- The packet of the next frame, if all of it has arrived. A frame that is not
intact is taken off like any other. -/
def nextPacket (r : Reassembler) : Except FrameError (Option Packet) × Reassembler :=
  match r.nextFrame with
  | (.ok (some frame), r) => (some <$> Frame.decode r.direction frame, r)
  | (.ok none, r) => (.ok none, r)
  | (.error error, r) => (.error error, r)

/-- The end of the stream, which must not fall inside a frame. -/
def finish (r : Reassembler) : Except FrameError Unit × Reassembler :=
  if r.splitter.buffer.isEmpty then (.ok (), r)
  else (.error r.splitter.truncation, r.reset)

/-- An answer other than "not yet" leaves fewer bytes. -/
theorem buffered_nextPacket_lt {r r' : Reassembler} {answer : Except FrameError (Option Packet)}
    (step : r.nextPacket = (answer, r')) (settled : answer ≠ .ok none) :
    r'.buffered < r.buffered := by
  unfold nextPacket nextFrame at step
  cases h : r.splitter.next with
  | mk found rest =>
    simp only [h] at step
    split at step <;> rename_i hfound <;> simp only [Prod.mk.injEq] at hfound step <;>
      obtain ⟨hleft, hright⟩ := hfound <;> rw [← step.2, ← hright] <;> subst hleft
    · exact Splitter.length_buffer_next_lt h (by simp)
    · exact absurd step.1.symm settled
    · exact Splitter.length_buffer_next_lt h (by simp)

/-- All packets that have arrived, and the refusals between them. -/
def drain (r : Reassembler) : List (Except FrameError Packet) × Reassembler :=
  match h : r.nextPacket with
  | (.ok none, r') => ([], r')
  | (.ok (some packet), r') =>
    have : r'.buffered < r.buffered := buffered_nextPacket_lt h (by simp)
    let (rest, last) := r'.drain
    (.ok packet :: rest, last)
  | (.error error, r') =>
    have : r'.buffered < r.buffered := buffered_nextPacket_lt h (by simp)
    let (rest, last) := r'.drain
    (.error error :: rest, last)
  termination_by r.buffered

/-- Takes in chunks one by one and drains after each that is not refused. -/
def feed (r : Reassembler) : List Bytes → List (Except FrameError Packet) × Reassembler
  | [] => ([], r)
  | chunk :: chunks =>
    let (answers, r) :=
      match r.push chunk with
      | (.ok (), r) => r.drain
      | (.error error, r) => ([.error error], r)
    let (rest, last) := r.feed chunks
    (answers ++ rest, last)

end Reassembler

end MotionLink

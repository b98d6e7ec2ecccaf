import MotionLink.Stream.Splitter

/-!
# A buffer of packets

One buffer that packets are decoded from at the front and encoded into at the
back. Unlike a reassembler it has no limit of its own, and the call that asks
for the last packets of a stream also reports a frame that its end cuts off.
-/

namespace MotionLink

/-- The bytes of a stream, and what is known of the frame at the front. -/
structure PacketBuffer where
  splitter : Splitter
  deriving DecidableEq, Repr

namespace PacketBuffer

/-- An empty buffer. -/
def empty (direction : Direction) : PacketBuffer := ⟨Splitter.start direction⟩

/-- The bytes at hand. -/
def bytes (b : PacketBuffer) : Bytes := b.splitter.buffer

/-- Puts bytes behind those at hand. -/
def extend (b : PacketBuffer) (bytes : Bytes) : PacketBuffer := ⟨b.splitter.extend bytes⟩

/-- Takes the packet at the front, if all of its frame is there. -/
def decode (b : PacketBuffer) : Except FrameError (Option Packet) × PacketBuffer :=
  let (found, splitter) := b.splitter.next
  let answer := do
    match ← found with
    | none => return none
    | some frame => some <$> Frame.decode b.splitter.direction frame
  (answer, ⟨splitter⟩)

/-- Takes the packet at the front of a stream that has ended; what is left of a
frame is refused and forgotten. -/
def decodeEnd (b : PacketBuffer) : Except FrameError (Option Packet) × PacketBuffer :=
  match b.decode with
  | (.ok none, b) =>
    if b.bytes.isEmpty then (.ok none, b)
    else (.error b.splitter.truncation, ⟨b.splitter.reset⟩)
  | outcome => outcome

/-- Puts the frame of a packet behind the bytes at hand. -/
def encode (b : PacketBuffer) (packet : Packet) : Except FrameError Unit × PacketBuffer :=
  let (outcome, bytes) := Frame.append b.bytes packet
  (outcome, ⟨{ b.splitter with buffer := bytes }⟩)

end PacketBuffer

end MotionLink

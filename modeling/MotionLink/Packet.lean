import MotionLink.Command
import MotionLink.Feedback

/-!
# Packets

A packet of either direction: what it is, whom it concerns, and whether it may
be sent.
-/

namespace MotionLink

/-- A command or feedback. -/
inductive Packet where
  | command (command : Command)
  | feedback (feedback : Feedback)
  deriving DecidableEq, Repr

namespace Packet

/-- The kind of the packet. -/
def kind : Packet → PacketKind
  | command c => .command c.kind
  | feedback f => .feedback f.kind

/-- The direction the packet travels. -/
def direction (packet : Packet) : Direction := packet.kind.direction

/-- The board that is addressed or that reports. -/
def segment : Packet → Segment
  | command c => c.segment
  | feedback f => f.segment

/-- The values of the body in the order of its layout. -/
def values : Packet → List FieldValue
  | command c => c.body.values
  | feedback f => f.body.values

/-- The bytes between the segment and the payload: the timestamp of feedback. -/
def stamp : Packet → Bytes
  | command _ => []
  | feedback f => LittleEndian.ofWord32 f.timestamp

/-- Refuses a command that has a fault; feedback has none. -/
def validate : Packet → Except FrameError Unit
  | command c => c.validate
  | feedback _ => .ok ()

end Packet

end MotionLink

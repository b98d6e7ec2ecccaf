import MotionLink.IoFailure
import MotionLink.PacketKind
import MotionLink.Text.Hex

/-!
# Why a frame or a packet is refused

One constructor per cause, with the numbers that belong to it; the wording of
all of them is in `FrameError.message`.
-/

namespace MotionLink

/-- What keeps a command from being sent. -/
inductive CommandFault where
  /-- Addressed to every board, which this command does not allow. -/
  | broadcast
  /-- A polynomial was given this many coefficients instead of eight. -/
  | coefficientCount (count : Nat)
  /-- A coefficient of this motor (counted from one) is infinite or not a number. -/
  | nonFiniteCoefficient (motor : Nat)
  /-- No motor has this id. -/
  | motorId (id : UInt8)
  /-- The speed is above full speed. -/
  | speed (percent : UInt8)
  /-- The distance to jog is infinite or not a number. -/
  | distance
  /-- A fault found elsewhere, in its finder's words. -/
  | reported (reason : String)
  deriving DecidableEq, Repr

def CommandFault.message : CommandFault → String
  | broadcast => "broadcast segment is not valid for this command"
  | coefficientCount count => s!"expected 8 coefficients, got {count}"
  | nonFiniteCoefficient motor => s!"motor {motor} has a non-finite coefficient"
  | motorId id => s!"motor id {id} outside 1..=3"
  | speed percent => s!"speed {percent}% exceeds 100%"
  | distance => "jog distance is not finite"
  | reported reason => reason

/-- What can go wrong between packets, frames and streams. -/
inductive FrameError where
  /-- The frame does not start with the magic word of its direction. -/
  | badMagic (expected found : UInt16)
  /-- No layout is registered for the type id in this direction. -/
  | unknownPacketType (direction : Direction) (id : UInt8)
  /-- The frame ends before its type id. -/
  | tooShort (length : Nat)
  /-- The frame is longer or shorter than its kind. -/
  | lengthMismatch (packet : PacketKind) (expected actual : Nat)
  /-- The trailer disagrees with the bytes before it. -/
  | checksumMismatch (packet : PacketKind) (stored computed : UInt16)
  /-- A field of an intact frame is outside its domain. -/
  | malformedPacket (packet : PacketKind) (field : String) (value : UInt8)
  /-- A command was refused before any byte was written. -/
  | malformedCommand (packet : PacketKind) (fault : CommandFault)
  /-- The stream ended inside a frame, whose length is given where it was known. -/
  | truncatedFrame (buffered : Nat) (expected : Option Nat)
  /-- More bytes arrived than may be held. -/
  | bufferOverflow (size max : Nat)
  /-- Values and layout disagree at this field. -/
  | layoutMismatch (packet : PacketKind) (field : String)
  /-- The stream or sink failed. -/
  | io (failure : IoFailure)
  /-- The stream ended between frames. -/
  | connectionClosed
  deriving DecidableEq, Repr

def FrameError.message : FrameError → String
  | badMagic expected found =>
    s!"invalid frame magic (expected {Hex.marked 4 expected.toNat}, " ++
      s!"found {Hex.marked 4 found.toNat})"
  | unknownPacketType direction id =>
    s!"unknown packet type {Hex.marked 2 id.toNat} for {direction.name}"
  | tooShort length => s!"frame too short ({length} bytes)"
  | lengthMismatch packet expected actual =>
    s!"{packet.name} frame length mismatch (expected {expected} bytes, got {actual})"
  | checksumMismatch packet stored computed =>
    s!"{packet.name} checksum mismatch (stored {Hex.marked 4 stored.toNat}, " ++
      s!"computed {Hex.marked 4 computed.toNat})"
  | malformedPacket packet field value =>
    packet.name ++ " field `" ++ field ++ "` has invalid value " ++ Hex.marked 2 value.toNat
  | malformedCommand packet fault => s!"malformed {packet.name} command: {fault.message}"
  | truncatedFrame buffered _ => s!"stream ended mid-frame ({buffered} bytes buffered)"
  | bufferOverflow size max => s!"reassembly buffer full ({size} bytes, max {max})"
  | layoutMismatch packet field =>
    packet.name ++ " fields do not match registered layout at `" ++ field ++ "`"
  | io failure => s!"frame I/O error: {failure.message}"
  | connectionClosed => "connection closed"

end MotionLink

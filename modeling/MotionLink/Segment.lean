/-!
# Segments

A board is addressed by its segment; the highest address speaks to every board.
-/

namespace MotionLink

/-- The address of a segment board, or of all of them. -/
structure Segment where
  id : UInt8
  deriving DecidableEq, Repr

namespace Segment

/-- The address of every board. -/
def broadcast : Segment := ⟨255⟩

/-- Whether the address is that of every board. -/
def isBroadcast (s : Segment) : Bool := s == broadcast

/-- Whether a frame addressed to `s` concerns `board`. -/
def addresses (s board : Segment) : Bool := s.isBroadcast || s == board

/-- The address in reports. -/
def text (s : Segment) : String :=
  if s.isBroadcast then "broadcast" else toString s.id.toNat

end Segment

end MotionLink

/-!
# Directions

Frames travel from the master controller to the boards or back. The direction
fixes the magic word a frame starts with and the length of its header: frames
of a board carry a timestamp there.
-/

namespace MotionLink

/-- The way a frame travels. -/
inductive Direction where
  | masterToBoard
  | boardToMaster
  deriving DecidableEq, Repr

namespace Direction

/-- The direction's name in reports. -/
def name : Direction → String
  | masterToBoard => "master-to-board"
  | boardToMaster => "board-to-master"

/-- The word a frame of this direction starts with. -/
def magic : Direction → UInt16
  | masterToBoard => 0xAA55
  | boardToMaster => 0xBB55

/-- Bytes before the payload: magic, type, segment, and the timestamp of a board. -/
def headerLength : Direction → Nat
  | masterToBoard => 4
  | boardToMaster => 8

end Direction

end MotionLink

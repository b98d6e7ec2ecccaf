import MotionLink.Direction

/-!
# Packet kinds

Each direction has its own kinds of packet, told apart by a type id. Ids
overlap between the directions, so a kind is found from both
(`PacketKind.ofId?`).
-/

namespace MotionLink

/-- What the master can ask of a board. -/
inductive CommandKind where
  | trajectory
  | emergencyStop
  | startHoming
  | jogMotor
  | setMode
  | setZeroOffset
  deriving DecidableEq, Repr

/-- What a board can report. -/
inductive FeedbackKind where
  | motorState
  | capacitiveGrid
  | diagnostics
  deriving DecidableEq, Repr

/-- A kind of packet of either direction. -/
inductive PacketKind where
  | command (kind : CommandKind)
  | feedback (kind : FeedbackKind)
  deriving DecidableEq, Repr

namespace CommandKind

/-- All commands, in the order of their ids. -/
def all : List CommandKind :=
  [trajectory, emergencyStop, startHoming, jogMotor, setMode, setZeroOffset]

def id : CommandKind → UInt8
  | trajectory => 1
  | emergencyStop => 2
  | startHoming => 3
  | jogMotor => 7
  | setMode => 8
  | setZeroOffset => 9

def name : CommandKind → String
  | trajectory => "TRAJECTORY"
  | emergencyStop => "EMERGENCY_STOP"
  | startHoming => "START_HOMING"
  | jogMotor => "JOG_MOTOR"
  | setMode => "SET_MODE"
  | setZeroOffset => "SET_ZERO_OFFSET"

/-- Whether the command may be addressed to every board at once. -/
def supportsBroadcast : CommandKind → Bool
  | emergencyStop | startHoming | setMode => true
  | trajectory | jogMotor | setZeroOffset => false

end CommandKind

namespace FeedbackKind

/-- All feedback kinds, in the order of their ids. -/
def all : List FeedbackKind := [motorState, capacitiveGrid, diagnostics]

def id : FeedbackKind → UInt8
  | motorState => 1
  | capacitiveGrid => 2
  | diagnostics => 3

def name : FeedbackKind → String
  | motorState => "MOTOR_STATE"
  | capacitiveGrid => "CAPACITIVE_GRID"
  | diagnostics => "DIAGNOSTICS"

end FeedbackKind

namespace PacketKind

/-- All kinds, commands first. -/
def all : List PacketKind := CommandKind.all.map command ++ FeedbackKind.all.map feedback

/-- The direction packets of the kind travel. -/
def direction : PacketKind → Direction
  | command _ => .masterToBoard
  | feedback _ => .boardToMaster

def id : PacketKind → UInt8
  | command kind => kind.id
  | feedback kind => kind.id

def name : PacketKind → String
  | command kind => kind.name
  | feedback kind => kind.name

/-- Whether a command may be broadcast; feedback has no addressee. -/
def supportsBroadcast? : PacketKind → Option Bool
  | command kind => some kind.supportsBroadcast
  | feedback _ => none

/-- The kind with this id in this direction. -/
def ofId? (direction : Direction) (id : UInt8) : Option PacketKind :=
  all.find? fun kind => kind.direction = direction ∧ kind.id = id

def ofName? (name : String) : Option PacketKind :=
  all.find? fun kind => kind.name = name

end PacketKind

end MotionLink

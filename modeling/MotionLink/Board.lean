import MotionLink.Frame

/-!
# Boards

A board acts on the commands addressed to it and keeps what its reports need.
An emergency stop latches: it clears the trajectory and holds until the board
is set to operation. Frames that cannot be decoded are counted, and the
counters stop at their highest value.
-/

namespace MotionLink

/-- What a board did with a command. -/
inductive Disposition where
  | applied
  | ignored
  deriving DecidableEq, Repr

/-- The state of a board. -/
structure Board where
  segment : Segment
  mode : OperatingMode
  /-- Whether an emergency stop holds. -/
  stopped : Bool
  lastStopReason : Option UInt8
  /-- The homing asked for last. -/
  homing : Option HomingMode
  trajectory : Option Trajectory
  zeroOffsetRequests : UInt32
  errorCount : UInt16
  lastError : ErrorCode
  deriving DecidableEq, Repr

namespace Board

/-- A board that has received nothing. -/
def new (segment : Segment) : Board where
  segment := segment
  mode := .idle
  stopped := false
  lastStopReason := none
  homing := none
  trajectory := none
  zeroOffsetRequests := 0
  errorCount := 0
  lastError := .noError

/-- Acts on the body of a command addressed to the board. -/
def perform (b : Board) : CommandBody → Board
  | .emergencyStop reason =>
    { b with stopped := true, lastStopReason := some reason, mode := .idle, trajectory := none }
  | .setMode mode => { b with mode := mode, stopped := b.stopped && mode != .operation }
  | .startHoming homing => { b with mode := .homing, homing := some homing }
  | .trajectory trajectory => { b with trajectory := some trajectory }
  | .jogMotor _ => b
  | .setZeroOffset =>
    let requests := min (b.zeroOffsetRequests.toNat + 1) (UInt32.size - 1)
    { b with zeroOffsetRequests := UInt32.ofNat requests }

/-- Acts on a command if it is addressed to the board. -/
def apply (b : Board) (command : Command) : Disposition × Board :=
  if command.segment.addresses b.segment then (.applied, b.perform command.body)
  else (.ignored, b)

/-- Counts a frame that could not be decoded. -/
def recordRejected (b : Board) : Board :=
  { b with
    errorCount := UInt16.ofNat (min (b.errorCount.toNat + 1) (UInt16.size - 1))
    lastError := .crcError }

/-- Takes in a frame: its command, or the rejection of it. -/
def receive (b : Board) (frame : Bytes) : Except FrameError Disposition × Board :=
  match Frame.decodeCommand frame with
  | .ok command => let (disposition, b) := b.apply command; (.ok disposition, b)
  | .error error => (.error error, b.recordRejected)

/-- The flag that stands for an operating mode. -/
def modeFlag? : OperatingMode → Option StatusFlag
  | .idle => none
  | .homing => some .homingInProgress
  | .operation => some .trajectoryExecuting

/-- The status the board reports. -/
def status (b : Board) : Status :=
  .ofFlags ((if b.stopped then [.emergencyStopActive] else []) ++ (modeFlag? b.mode).toList ++
    (if b.lastError = .noError then [] else [.errorPresent]))

/-- The state of a motor at a position, as far as it is known. -/
def sampleAt (position : Binary32) : MotorSample := { MotorSample.rest with position := position }

/-- The report of the board's motors at a board time, with its attitude. -/
def motorState (b : Board) (now : UInt32) (orientation : Orientation) : MotorState where
  motors :=
    match b.trajectory with
    | some trajectory => (trajectory.positionsAt now).map sampleAt
    | none => .replicate .rest
  orientation := orientation
  status := b.status

/-- The report of the board's health with sensor readings. -/
def diagnostics (b : Board) (driverTempAvg controllerTemp : Binary32) (cpuUsage : UInt8) :
    Diagnostics where
  driverTempAvg := driverTempAvg
  controllerTemp := controllerTemp
  errorCount := b.errorCount
  lastErrorCode := Coded.byte b.lastError
  cpuUsage := cpuUsage

end Board

end MotionLink

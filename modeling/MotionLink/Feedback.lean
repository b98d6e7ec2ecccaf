import MotionLink.Layout.Cursor
import MotionLink.Segment

/-!
# Feedback

What a board reports to the master: the state of its motors with its
orientation and status, or its diagnostics. As for commands, the values of a
body are listed and read in the order of its layout; no value of a report is
outside its domain, so reading one never finds it malformed.
-/

namespace MotionLink

/-- The state of one motor. -/
structure MotorSample where
  /-- In millimetres; its three derivatives by time follow. -/
  position : Binary32
  velocity : Binary32
  acceleration : Binary32
  jerk : Binary32
  /-- In amperes. -/
  current : Binary32
  deriving DecidableEq, Repr

namespace MotorSample

/-- A motor that rests at its reference position. -/
def rest : MotorSample :=
  ⟨Binary32.zero, Binary32.zero, Binary32.zero, Binary32.zero, Binary32.zero⟩

def toList (sample : MotorSample) : List Binary32 :=
  [sample.position, sample.velocity, sample.acceleration, sample.jerk, sample.current]

def read : FieldReader MotorSample := do
  let position ← FieldReader.real
  let velocity ← FieldReader.real
  let acceleration ← FieldReader.real
  let jerk ← FieldReader.real
  let current ← FieldReader.real
  return ⟨position, velocity, acceleration, jerk, current⟩

end MotorSample

/-- The attitude of a board, in radians. -/
structure Orientation where
  roll : Binary32
  pitch : Binary32
  yaw : Binary32
  deriving DecidableEq, Repr

namespace Orientation

def toList (o : Orientation) : List Binary32 := [o.roll, o.pitch, o.yaw]

/-- Degrees in a radian, 57.2957795130823. -/
def degreesPerRadian : Binary32 := Binary32.ofRatio 572957795130823 10000000000000

/-- The same attitude in degrees. -/
def toDegrees (o : Orientation) : Orientation :=
  ⟨o.roll * degreesPerRadian, o.pitch * degreesPerRadian, o.yaw * degreesPerRadian⟩

def read : FieldReader Orientation := do
  let roll ← FieldReader.real
  let pitch ← FieldReader.real
  let yaw ← FieldReader.real
  return ⟨roll, pitch, yaw⟩

end Orientation

/-- The motors, attitude and status of a board. -/
structure MotorState where
  motors : PerMotor MotorSample
  orientation : Orientation
  status : Status
  deriving DecidableEq, Repr

/-- The health of a board. -/
structure Diagnostics where
  /-- Temperatures in degrees Celsius. -/
  driverTempAvg : Binary32
  controllerTemp : Binary32
  errorCount : UInt16
  /-- The code as received, which may have no name. -/
  lastErrorCode : UInt8
  cpuUsage : UInt8
  deriving DecidableEq, Repr

/-- The last error, if its code is known. -/
def Diagnostics.lastError? (d : Diagnostics) : Option ErrorCode := Coded.ofByte? d.lastErrorCode

/-- What a board reports. -/
inductive FeedbackBody where
  | motorState (state : MotorState)
  | diagnostics (diagnostics : Diagnostics)
  deriving DecidableEq, Repr

namespace FeedbackBody

def kind : FeedbackBody → FeedbackKind
  | motorState _ => .motorState
  | diagnostics _ => .diagnostics

/-- The values of the body in the order of its layout. -/
def values : FeedbackBody → List FieldValue
  | motorState state =>
    (state.motors.toList.flatMap MotorSample.toList ++ state.orientation.toList).map .real ++
      [.byte state.status.bits]
  | diagnostics d =>
    [.real d.driverTempAvg, .real d.controllerTemp, .word16 d.errorCount, .byte d.lastErrorCode,
      .byte d.cpuUsage]

/-- Reads the body of a kind; there is none of a capacitive grid. -/
def read : FeedbackKind → FieldReader FeedbackBody
  | .motorState => do
    let first ← MotorSample.read
    let second ← MotorSample.read
    let third ← MotorSample.read
    let orientation ← Orientation.read
    let status ← FieldReader.byte
    return motorState ⟨⟨first, second, third⟩, orientation, ⟨status⟩⟩
  | .capacitiveGrid => throw (.unknownPacketType .boardToMaster FeedbackKind.capacitiveGrid.id)
  | .diagnostics => do
    let driverTempAvg ← FieldReader.real
    let controllerTemp ← FieldReader.real
    let errorCount ← FieldReader.word16
    let lastErrorCode ← FieldReader.byte
    let cpuUsage ← FieldReader.byte
    return diagnostics ⟨driverTempAvg, controllerTemp, errorCount, lastErrorCode, cpuUsage⟩

end FeedbackBody

/-- A report of a board, with the board's clock in milliseconds. -/
structure Feedback where
  segment : Segment
  timestamp : UInt32
  body : FeedbackBody
  deriving DecidableEq, Repr

def Feedback.kind (feedback : Feedback) : FeedbackKind := feedback.body.kind

end MotionLink

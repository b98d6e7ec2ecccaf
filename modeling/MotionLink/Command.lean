import MotionLink.Layout.Cursor
import MotionLink.Segment

/-!
# Commands

What the master sends to a board. `CommandBody.values` lists the values of a
body in the order of its layout and `CommandBody.read` reads them back, with
the domain of each field. `Command.fault?` says what keeps a command from being
sent; the broadcast address is looked at before the body.
-/

namespace MotionLink

/-- A move of one motor by hand. -/
structure Jog where
  /-- Motors are counted from one. -/
  motorId : UInt8
  unit : JogUnit
  value : Binary32
  /-- Percentage of full speed. -/
  speedPercent : UInt8
  deriving DecidableEq, Repr

namespace Jog

/-- Whether a board has a motor with this id. -/
def isMotorId (id : UInt8) : Bool := 1 ≤ id && id ≤ 3

/-- Whether a speed is at most full speed. -/
def isSpeed (percent : UInt8) : Bool := percent ≤ 100

/-- What keeps the jog from being sent: the motor, then the speed, then the distance. -/
def fault? (jog : Jog) : Option CommandFault :=
  if !isMotorId jog.motorId then some (.motorId jog.motorId)
  else if !isSpeed jog.speedPercent then some (.speed jog.speedPercent)
  else if !jog.value.isFinite then some .distance
  else none

end Jog

/-- What keeps a trajectory from being sent: its first motor with a coefficient
that is not finite. -/
def Trajectory.fault? (t : Trajectory) : Option CommandFault :=
  (t.motors.toList.findIdx? (!·.isFinite)).map fun index => .nonFiniteCoefficient (index + 1)

/-- What a command asks for. -/
inductive CommandBody where
  | trajectory (trajectory : Trajectory)
  | emergencyStop (reason : UInt8)
  | startHoming (mode : HomingMode)
  | jogMotor (jog : Jog)
  | setMode (mode : OperatingMode)
  | setZeroOffset
  deriving DecidableEq, Repr

namespace CommandBody

/-- The kind of command with this body. -/
def kind : CommandBody → CommandKind
  | trajectory _ => .trajectory
  | emergencyStop _ => .emergencyStop
  | startHoming _ => .startHoming
  | jogMotor _ => .jogMotor
  | setMode _ => .setMode
  | setZeroOffset => .setZeroOffset

/-- What keeps the body from being sent, whatever the address. -/
def fault? : CommandBody → Option CommandFault
  | trajectory t => t.fault?
  | jogMotor jog => jog.fault?
  | emergencyStop _ | startHoming _ | setMode _ | setZeroOffset => none

/-- The values of the body in the order of its layout. -/
def values : CommandBody → List FieldValue
  | trajectory t =>
    [.word32 t.id, .word32 t.start, .word16 t.duration, .coefficients t.motors.first,
      .coefficients t.motors.second, .coefficients t.motors.third]
  | emergencyStop reason => [.byte reason]
  | startHoming mode => [.byte (Coded.byte mode)]
  | jogMotor jog =>
    [.byte jog.motorId, .byte (Coded.byte jog.unit), .real jog.value, .byte jog.speedPercent]
  | setMode mode => [.byte (Coded.byte mode)]
  | setZeroOffset => []

/-- Reads the body of a kind, each field in its domain. -/
def read : CommandKind → FieldReader CommandBody
  | .trajectory => do
    let id ← FieldReader.word32
    let start ← FieldReader.word32
    let duration ← FieldReader.word16
    let first ← FieldReader.coefficients
    let second ← FieldReader.coefficients
    let third ← FieldReader.coefficients
    return trajectory ⟨id, start, duration, ⟨first, second, third⟩⟩
  | .emergencyStop => emergencyStop <$> FieldReader.byte
  | .startHoming => startHoming <$> FieldReader.coded "homing_mode"
  | .jogMotor => do
    let motorId ← FieldReader.tested "motor_id" Jog.isMotorId
    let unit ← FieldReader.coded "mode"
    let value ← FieldReader.real
    let speedPercent ← FieldReader.tested "speed_percent" Jog.isSpeed
    return jogMotor ⟨motorId, unit, value, speedPercent⟩
  | .setMode => setMode <$> FieldReader.coded "mode"
  | .setZeroOffset => return setZeroOffset

end CommandBody

/-- A command and the board it is for. -/
structure Command where
  segment : Segment
  body : CommandBody
  deriving DecidableEq, Repr

namespace Command

/-- The kind of the command. -/
def kind (command : Command) : CommandKind := command.body.kind

/-- What keeps the command from being sent. -/
def fault? (command : Command) : Option CommandFault :=
  if command.segment.isBroadcast && !command.kind.supportsBroadcast then some .broadcast
  else command.body.fault?

/-- Refuses a command that has a fault. -/
def validate (command : Command) : Except FrameError Unit :=
  match command.fault? with
  | some fault => .error (.malformedCommand (.command command.kind) fault)
  | none => .ok ()

end Command

end MotionLink

/-!
# Coded values

Some one-byte fields hold a code from a short list: operating modes, homing
procedures, jog units and error codes. `Coded` gives each value its byte and
its name; `Coded.ofByte?` finds the value of a byte, and a byte outside the
list has none. A status byte holds one flag per bit.
-/

namespace MotionLink

/-- A finite list of values, each with a byte on the wire and a name in reports. -/
class Coded (α : Type) where
  values : List α
  byte : α → UInt8
  name : α → String

namespace Coded

variable {α : Type} [Coded α]

/-- The value with this byte. -/
def ofByte? (code : UInt8) : Option α := (values : List α).find? fun value => byte value = code

/-- The value with this name. -/
def ofName? (text : String) : Option α := (values : List α).find? fun value => name value = text

end Coded

/-- What a board is ready to do. -/
inductive OperatingMode where
  | idle
  | homing
  | operation
  deriving DecidableEq, Repr

instance : Coded OperatingMode where
  values := [.idle, .homing, .operation]
  byte
    | .idle => 1
    | .homing => 2
    | .operation => 3
  name
    | .idle => "IDLE"
    | .homing => "HOMING"
    | .operation => "OPERATION"

/-- How a board looks for its reference position: against the end stops, or by
a quick check of a homing done before. -/
inductive HomingMode where
  | full
  | quickVerify
  deriving DecidableEq, Repr

instance : Coded HomingMode where
  values := [.full, .quickVerify]
  byte
    | .full => 1
    | .quickVerify => 2
  name
    | .full => "full"
    | .quickVerify => "quick-verify"

/-- The unit of a jog distance. -/
inductive JogUnit where
  | millimeters
  | encoderTicks
  deriving DecidableEq, Repr

instance : Coded JogUnit where
  values := [.millimeters, .encoderTicks]
  byte
    | .millimeters => 1
    | .encoderTicks => 2
  name
    | .millimeters => "mm"
    | .encoderTicks => "ticks"

/-- The last error a board has seen. -/
inductive ErrorCode where
  | noError
  | emergencyStopTriggered
  | motorOvercurrent
  | positionLimit
  | communicationTimeout
  | crcError
  | invalidTrajectory
  | encoderFault
  | driverFault
  | imuFault
  | capacitiveFault
  | flashError
  | bufferOverrun
  | temperatureHigh
  deriving DecidableEq, Repr

instance : Coded ErrorCode where
  values := [.noError, .emergencyStopTriggered, .motorOvercurrent, .positionLimit,
    .communicationTimeout, .crcError, .invalidTrajectory, .encoderFault, .driverFault,
    .imuFault, .capacitiveFault, .flashError, .bufferOverrun, .temperatureHigh]
  byte
    | .noError => 0
    | .emergencyStopTriggered => 1
    | .motorOvercurrent => 2
    | .positionLimit => 3
    | .communicationTimeout => 4
    | .crcError => 5
    | .invalidTrajectory => 6
    | .encoderFault => 7
    | .driverFault => 8
    | .imuFault => 9
    | .capacitiveFault => 10
    | .flashError => 11
    | .bufferOverrun => 12
    | .temperatureHigh => 13
  name
    | .noError => "NO_ERROR"
    | .emergencyStopTriggered => "E_STOP_TRIGGERED"
    | .motorOvercurrent => "MOTOR_OVERCURRENT"
    | .positionLimit => "POSITION_LIMIT"
    | .communicationTimeout => "COMMUNICATION_TIMEOUT"
    | .crcError => "CRC_ERROR"
    | .invalidTrajectory => "INVALID_TRAJECTORY"
    | .encoderFault => "ENCODER_FAULT"
    | .driverFault => "DRIVER_FAULT"
    | .imuFault => "IMU_FAULT"
    | .capacitiveFault => "CAPACITIVE_FAULT"
    | .flashError => "FLASH_ERROR"
    | .bufferOverrun => "BUFFER_OVERRUN"
    | .temperatureHigh => "TEMPERATURE_HIGH"

/-- One condition in a board's status byte. -/
inductive StatusFlag where
  | emergencyStopActive
  | homingInProgress
  | positionLimitHit
  | forceLimitExceeded
  | bufferEmpty
  | trajectoryExecuting
  | calibrationValid
  | errorPresent
  deriving DecidableEq, Repr

namespace StatusFlag

/-- All flags, the lowest bit first. -/
def all : List StatusFlag :=
  [emergencyStopActive, homingInProgress, positionLimitHit, forceLimitExceeded, bufferEmpty,
    trajectoryExecuting, calibrationValid, errorPresent]

/-- The status byte in which only this flag is set. -/
def mask : StatusFlag → UInt8
  | emergencyStopActive => 0x01
  | homingInProgress => 0x02
  | positionLimitHit => 0x04
  | forceLimitExceeded => 0x08
  | bufferEmpty => 0x10
  | trajectoryExecuting => 0x20
  | calibrationValid => 0x40
  | errorPresent => 0x80

/-- The flag's name in reports. -/
def name : StatusFlag → String
  | emergencyStopActive => "E_STOP_ACTIVE"
  | homingInProgress => "HOMING_IN_PROGRESS"
  | positionLimitHit => "POSITION_LIMIT_HIT"
  | forceLimitExceeded => "FORCE_LIMIT_EXCEEDED"
  | bufferEmpty => "BUFFER_EMPTY"
  | trajectoryExecuting => "TRAJECTORY_EXECUTING"
  | calibrationValid => "CALIBRATION_VALID"
  | errorPresent => "ERROR_PRESENT"

end StatusFlag

/-- A board's status byte. -/
structure Status where
  bits : UInt8
  deriving DecidableEq, Repr

namespace Status

/-- The status in which exactly the given flags are set. -/
def ofFlags (flags : List StatusFlag) : Status :=
  ⟨flags.foldl (fun bits flag => bits ||| flag.mask) 0⟩

/-- Whether a flag is set. -/
def has (status : Status) (flag : StatusFlag) : Bool := status.bits &&& flag.mask != 0

/-- The set flags, the lowest bit first. -/
def flags (status : Status) : List StatusFlag := StatusFlag.all.filter status.has

end Status

end MotionLink

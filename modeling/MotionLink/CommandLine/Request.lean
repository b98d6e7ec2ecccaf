import MotionLink.Animation
import MotionLink.Code
import MotionLink.Link.Settings
import MotionLink.Report.Format
import MotionLink.Segment

/-!
# Requests

What the program can be asked to do, with all that it needs to know for it.
-/

namespace MotionLink.CommandLine

structure Ports where
  stream : UInt16
  datagram : UInt16
  deriving DecidableEq, Repr

inductive SendAction where
  | emergencyStop (reason : UInt8)
  | setMode (mode : OperatingMode)
  | startHoming (mode : HomingMode)
  | jog (motor : UInt8) (distance : Binary32) (unit : JogUnit) (speed : UInt8)
  | setZeroOffset
  | trajectory (id start : UInt32) (duration : UInt16) (motors : PerMotor (List Binary32))
  deriving DecidableEq, Repr

/-- Encode a command, and send it to a board. -/
structure SendRequest where
  board : Address
  segment : Segment
  /-- Whether to print the frame instead of sending it. -/
  dryRun : Bool
  /-- Whether to send a datagram. -/
  datagram : Bool
  /-- How long to wait for the connection, as given. -/
  timeout : String
  ports : Ports
  action : SendAction
  deriving DecidableEq, Repr

/-- Print the feedback of a board. -/
structure ListenRequest where
  board : Address
  /-- After how many frames to stop. -/
  count : Option Nat
  /-- How long to wait for the connection, as given. -/
  timeout : String
  ports : Ports
  deriving DecidableEq, Repr

structure DecodeRequest where
  hex : String
  direction : Direction
  deriving DecidableEq, Repr

structure SimulateRequest where
  address : Address
  segment : Segment
  animation : Animation
  /-- Motor states per second. -/
  rate : UInt32
  /-- Motor states between two diagnostics. -/
  diagnosticsEvery : UInt32
  /-- After how many motor states to stop. -/
  count : Option Nat
  ports : Ports
  deriving DecidableEq, Repr

inductive Request where
  | send (request : SendRequest)
  | listen (request : ListenRequest)
  | decode (request : DecodeRequest)
  | simulate (request : SimulateRequest)
  /-- Print the version, with a description of the host if `extended`. -/
  | version (extended : Bool)
  deriving DecidableEq, Repr

/-- A request, and the format to answer it in if one is given. -/
structure Invocation where
  format : Option OutputFormat
  request : Request
  deriving DecidableEq, Repr

end MotionLink.CommandLine

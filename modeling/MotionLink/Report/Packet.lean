import MotionLink.Packet
import MotionLink.Report.Format
import MotionLink.Toolbox

/-!
# Reports of packets

A received packet is reported with its fields, an encoded one with its frame.
The fields of a kind are listed in alphabetical order; angles are in degrees,
and a code without a name is shown as a number.
-/

namespace MotionLink.Report

/-- Floating-point values as a list. -/
def reals (values : List Binary32) : Json := .array (values.map .real)

/-- A byte as a number. -/
def byte (value : UInt8) : Json := .nat value.toNat

/-- The fields of a command. -/
def commandFields : CommandBody → List (String × Json)
  | .trajectory t =>
    [("duration_ms", .nat t.duration.toNat), ("motor_1_coeffs", reals t.motors.first.terms),
      ("motor_2_coeffs", reals t.motors.second.terms),
      ("motor_3_coeffs", reals t.motors.third.terms), ("start_timestamp", .nat t.start.toNat),
      ("trajectory_id", .nat t.id.toNat)]
  | .emergencyStop reason => [("stop_reason", byte reason)]
  | .startHoming mode => [("homing_mode", .text (Coded.name mode))]
  | .jogMotor jog =>
    [("motor_id", byte jog.motorId), ("speed_percent", byte jog.speedPercent),
      ("unit", .text (Coded.name jog.unit)), ("value", .real jog.value)]
  | .setMode mode => [("mode", .text (Coded.name mode))]
  | .setZeroOffset => []

/-- The fields of feedback. -/
def feedbackFields : FeedbackBody → List (String × Json)
  | .motorState state =>
    let each (value : MotorSample → Binary32) : Json := reals (state.motors.toList.map value)
    let degrees := state.orientation.toDegrees
    [("currents", each MotorSample.current), ("pitch_deg", .real degrees.pitch),
      ("positions", each MotorSample.position), ("roll_deg", .real degrees.roll),
      ("status", .array (state.status.flags.map fun flag => .text flag.name)),
      ("status_flags", .text (Hex.marked 2 state.status.bits.toNat)),
      ("velocities", each MotorSample.velocity), ("yaw_deg", .real degrees.yaw)]
  | .diagnostics d =>
    let lastError :=
      match d.lastError? with
      | some code => Coded.name code
      | none => Hex.marked 2 d.lastErrorCode.toNat
    [("controller_temp", .real d.controllerTemp), ("cpu_usage", byte d.cpuUsage),
      ("driver_temp_avg", .real d.driverTempAvg), ("error_count", .nat d.errorCount.toNat),
      ("last_error", .text lastError)]

/-- The fields of a packet. -/
def fields : Packet → List (String × Json)
  | .command c => commandFields c.body
  | .feedback f => feedbackFields f.body

/-- The board's clock, which feedback carries. -/
def timestamp? : Packet → Option Nat
  | .command _ => none
  | .feedback f => some f.timestamp.toNat

/-- A segment, by number unless it is that of every board. -/
def segment (s : Segment) : Json := if s.isBroadcast then .text s.text else byte s.id

/-- Fields on one line. -/
def inlined (tools : Toolbox) (fields : List (String × Json)) : List Char :=
  List.intercalate [' '] (fields.map fun (name, value) => name.toList ++ '=' :: tools.shown value)

/-- The report of a packet as a JSON value. -/
def packetJson (packet : Packet) : Json :=
  .object
    ([("packet", .text packet.kind.name), ("direction", .text packet.direction.name),
      ("segment", segment packet.segment)] ++
      ((timestamp? packet).map fun time => ("timestamp", Json.nat time)).toList ++
      [("fields", .object (fields packet))])

/-- The report of a packet that came in the given frame. -/
def packet (packet : Packet) (frame : Bytes) (format : OutputFormat)
    (tools : Toolbox := .standard) : Output :=
  match format with
  | .json => .lines [tools.line (packetJson packet)]
  | .table =>
    .lines (tools.table
      [⟨"PACKET", packet.kind.name⟩, ⟨"SEGMENT", packet.segment.text⟩,
        ⟨"TIMESTAMP", ((timestamp? packet).map toString).getD "-"⟩,
        ⟨"FIELDS", String.ofList (inlined tools (fields packet))⟩])
  | .pretty =>
    let time := ((timestamp? packet).map fun time => s!" t={time}ms").getD ""
    .lines [s!"{packet.kind.name} segment={packet.segment.text}{time} ".toList ++
      inlined tools (fields packet)]
  | .raw => .bytes frame

/-- The report of an encoded frame as a JSON value. -/
def encodedJson (tools : Toolbox) (kind : PacketKind) (addressee : Segment) (frame : Bytes) :
    Json :=
  .object
    [("packet", .text kind.name), ("segment", segment addressee), ("length", .nat frame.length),
      ("hex", .text (String.ofList (tools.digits frame)))]

/-- The report of an encoded frame. -/
def encoded (kind : PacketKind) (addressee : Segment) (frame : Bytes) (format : OutputFormat)
    (tools : Toolbox := .standard) : Output :=
  match format with
  | .json => .lines [tools.line (encodedJson tools kind addressee frame)]
  | .table =>
    .lines (tools.table
      [⟨"PACKET", kind.name⟩, ⟨"SEGMENT", addressee.text⟩, ⟨"LENGTH", toString frame.length⟩,
        ⟨"FRAME", String.ofList (tools.digits frame)⟩])
  | .pretty =>
    .lines [s!"{kind.name} segment={addressee.text} length={frame.length} frame=".toList ++
      Hex.spaced frame]
  | .raw => .bytes frame

end MotionLink.Report

import MotionLink.Layout

/-!
# The registered layouts

Every packet kind that can be sent has one layout, found by direction and type
id. The capacitive grid has an id of its own but no layout yet, so no frame of
it is accepted.
-/

namespace MotionLink.Layout

/-- Fields that all hold floating-point values. -/
def realFields (names : List String) : List Field := names.map (⟨·, .real⟩)

/-- Layout of a trajectory. -/
def trajectory : Layout where
  kind := .command .trajectory
  fields :=
    [⟨"trajectory_id", .word32⟩, ⟨"start_timestamp", .word32⟩, ⟨"duration_ms", .word16⟩,
      ⟨"motor_1_coeffs", .coefficients⟩, ⟨"motor_2_coeffs", .coefficients⟩,
      ⟨"motor_3_coeffs", .coefficients⟩]

/-- Layout of an emergency stop. -/
def emergencyStop : Layout where
  kind := .command .emergencyStop
  fields := [⟨"stop_reason", .byte⟩]

/-- Layout of a homing request. -/
def startHoming : Layout where
  kind := .command .startHoming
  fields := [⟨"homing_mode", .byte⟩]

/-- Layout of a jog. -/
def jogMotor : Layout where
  kind := .command .jogMotor
  fields := [⟨"motor_id", .byte⟩, ⟨"mode", .byte⟩, ⟨"value", .real⟩, ⟨"speed_percent", .byte⟩]

/-- Layout of a mode change. -/
def setMode : Layout where
  kind := .command .setMode
  fields := [⟨"mode", .byte⟩]

/-- Layout of a request to take the current position as zero. -/
def setZeroOffset : Layout where
  kind := .command .setZeroOffset
  fields := []

/-- Layout of a motor state report. -/
def motorState : Layout where
  kind := .feedback .motorState
  fields :=
    realFields
      ["motor_1_position", "motor_1_velocity", "motor_1_acceleration", "motor_1_jerk",
        "motor_1_current", "motor_2_position", "motor_2_velocity", "motor_2_acceleration",
        "motor_2_jerk", "motor_2_current", "motor_3_position", "motor_3_velocity",
        "motor_3_acceleration", "motor_3_jerk", "motor_3_current", "roll", "pitch", "yaw"] ++
      [⟨"status_flags", .byte⟩]

/-- Layout of a diagnostics report. -/
def diagnostics : Layout where
  kind := .feedback .diagnostics
  fields :=
    [⟨"driver_temp_avg", .real⟩, ⟨"controller_temp", .real⟩, ⟨"error_count", .word16⟩,
      ⟨"last_error_code", .byte⟩, ⟨"cpu_usage", .byte⟩, ⟨"reserved", .reserved 4⟩]

/-- All layouts, commands first. -/
def registry : List Layout :=
  [trajectory, emergencyStop, startHoming, jogMotor, setMode, setZeroOffset, motorState,
    diagnostics]

/-- The layout with this type id in this direction. -/
def lookup (direction : Direction) (id : UInt8) : Except FrameError Layout :=
  match registry.find? fun layout => layout.kind.direction = direction ∧ layout.kind.id = id with
  | some layout => .ok layout
  | none => .error (.unknownPacketType direction id)

/-- The length of the longest frame. -/
def maxFrameLength : Nat := (registry.map frameLength).foldl max 0

end MotionLink.Layout

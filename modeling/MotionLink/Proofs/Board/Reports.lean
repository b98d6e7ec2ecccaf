import Mathlib
import MotionLink.Proofs.Board.History

/-!
# What a board reports

A flag is set in a status byte exactly where it was put in
(`Status.has_ofFlags`), so the status of a board answers four questions: whether
a stop holds, whether it is homing, whether it is in operation and whether it
has seen an error. The answers agree with each other and with the error counter
because the state does. `Board.Sound` is the invariant: no stop holds in
operation, and there is a last error exactly if errors were counted, which
stays so where the counter stops. Every event keeps it (`Sound.after`).

A stop holds from its command until the board is set to operation
(`stopped_stays`), and it takes the mode and the trajectory away when it comes.
It does not keep them away. A command behind it can put the board in homing or
give it a trajectory while the stop holds, and only these can
(`at_rest_until_told`).
-/

namespace MotionLink

/-! ## Flags -/

theorem StatusFlag.mask_and_mask {flag other : StatusFlag} :
    other.mask &&& flag.mask ≠ 0 ↔ flag = other := by
  cases flag <;> cases other <;> decide

namespace Status

theorem has_iff {status : Status} {flag : StatusFlag} :
    status.has flag = true ↔ status.bits &&& flag.mask ≠ 0 := bne_iff_ne

/-- One more flag is set, and the others stay. -/
theorem has_or_mask {bits : UInt8} {flag other : StatusFlag} :
    has ⟨bits ||| other.mask⟩ flag = true ↔ has ⟨bits⟩ flag = true ∨ flag = other := by
  have distributes : (bits ||| other.mask) &&& flag.mask =
      bits &&& flag.mask ||| other.mask &&& flag.mask :=
    UInt8.toBitVec_inj.mp BitVec.and_or_distrib_right
  rw [has_iff, has_iff, distributes, ← StatusFlag.mask_and_mask, ne_eq, UInt8.or_eq_zero_iff,
    not_and_or]

/-- The flags of a list are set, and no others. The induction is on the list,
one bit at a time. -/
theorem has_ofFlags {flags : List StatusFlag} {flag : StatusFlag} :
    (ofFlags flags).has flag = true ↔ flag ∈ flags := by
  -- The fold may start from any bits, and the induction needs them all.
  have folded (bits : UInt8) : has ⟨flags.foldl (fun bits flag => bits ||| flag.mask) bits⟩ flag =
      true ↔ has ⟨bits⟩ flag = true ∨ flag ∈ flags := by
    induction flags generalizing bits with
    | nil => simp only [List.foldl_nil, List.not_mem_nil, or_false]
    | cons other flags ih => rw [List.foldl_cons, ih, has_or_mask, List.mem_cons, or_assoc]
  have blank : has ⟨0⟩ flag ≠ true := by cases flag <;> decide
  rw [ofFlags, folded, or_iff_right blank]

end Status

namespace Board

/-! ## The status of a board -/

section

variable {b : Board}

/-- The flags a board sets: for a stop, for its mode and for an error. The three
are put in independently of each other, and it is the state that keeps them
apart. -/
theorem has_status {flag : StatusFlag} :
    b.status.has flag = true ↔
      (b.stopped = true ∧ flag = .emergencyStopActive) ∨ modeFlag? b.mode = some flag ∨
        (b.lastError ≠ .noError ∧ flag = .errorPresent) := by
  have stop : flag ∈ (if b.stopped then [StatusFlag.emergencyStopActive] else []) ↔
      b.stopped = true ∧ flag = .emergencyStopActive := by
    cases b.stopped <;> simp
  have error : flag ∈ (if b.lastError = .noError then [] else [StatusFlag.errorPresent]) ↔
      b.lastError ≠ .noError ∧ flag = .errorPresent := by
    by_cases none : b.lastError = .noError <;> simp [none]
  rw [status, Status.has_ofFlags, List.mem_append, List.mem_append, Option.mem_toList, stop, error,
    or_assoc]

theorem has_emergencyStopActive : b.status.has .emergencyStopActive = true ↔ b.stopped = true := by
  rw [has_status]
  cases b.mode <;> simp [modeFlag?]

theorem has_homingInProgress : b.status.has .homingInProgress = true ↔ b.mode = .homing := by
  rw [has_status]
  cases b.mode <;> simp [modeFlag?]

/-- Operation is reported in the mode of operation, with a trajectory or without
one. -/
theorem has_trajectoryExecuting :
    b.status.has .trajectoryExecuting = true ↔ b.mode = .operation := by
  rw [has_status]
  cases b.mode <;> simp [modeFlag?]

theorem has_errorPresent : b.status.has .errorPresent = true ↔ b.lastError ≠ .noError := by
  rw [has_status]
  cases b.mode <;> simp [modeFlag?]

end

/-- The flags that a board may set. -/
def reported : List StatusFlag :=
  [.emergencyStopActive, .homingInProgress, .trajectoryExecuting, .errorPresent]

/-- No bit is set besides those of the reported flags: the flags that a board
never sets stay clear whatever its state is, sound or not. -/
theorem status_reported (b : Board) : b.status.bits &&& ~~~(Status.ofFlags reported).bits = 0 := by
  unfold status
  cases b.stopped <;> cases b.mode <;> by_cases none : b.lastError = .noError <;>
    simp only [none, if_true, if_false] <;> decide

/-! ## The invariant -/

/-- The parts of a board's state that its reports are made of agree. -/
structure Sound (b : Board) : Prop where
  halted : b.stopped = true → b.mode ≠ .operation
  counted : b.lastError ≠ .noError ↔ b.errorCount ≠ 0

/-- A new board runs no trajectory and has seen no error. -/
theorem sound_new (segment : Segment) : (new segment).Sound where
  halted := nofun
  counted := iff_of_false (· rfl) (· rfl)

section

variable {b : Board}

/-- A command keeps the invariant: a stop comes with the idle mode, and
operation lifts it. -/
theorem Sound.perform (sound : b.Sound) (body : CommandBody) : (b.perform body).Sound where
  halted := by
    cases body with
    | emergencyStop reason => exact fun _ => OperatingMode.noConfusion
    | startHoming homing => exact fun _ => OperatingMode.noConfusion
    | setMode mode =>
      intro stopped operates
      obtain rfl : mode = .operation := operates
      exact absurd ((Bool.and_false _).symm.trans stopped) Bool.noConfusion
    | _ => exact sound.halted
  counted := by
    rw [lastError_perform, errorCount_perform]
    exact sound.counted

/-- A rejection is counted, and the counter does not start again at zero. -/
theorem Sound.recordRejected (sound : b.Sound) : b.recordRejected.Sound where
  halted := sound.halted
  counted := by
    refine iff_of_true ErrorCode.noConfusion fun none => ?_
    have counted := errorCount_recordRejected b
    rw [none, UInt16.toNat_zero] at counted
    omega

/-- Every event keeps the invariant, since it is a command that is performed,
one that is ignored, or a rejection. -/
theorem Sound.after (sound : b.Sound) (event : Event) : (b.after event).Sound := by
  rcases after_cases b event with ⟨-, -, becomes⟩ | ⟨-, -, becomes⟩ | ⟨-, body, -, becomes⟩
  · rw [becomes]
    exact sound.recordRejected
  · rw [becomes]
    exact sound
  · rw [becomes]
    exact sound.perform body

/-- Hence every history keeps it, and every board that started new is sound. -/
theorem Sound.run (sound : b.Sound) (history : List Event) : (b.run history).Sound := by
  induction history generalizing b with
  | nil => exact sound
  | cons event history ih => exact ih (sound.after event)

end

/-! ## Reports that agree -/

/-- What the two reports of a board say at one time agrees. -/
structure Agree (status : Status) (health : Diagnostics) : Prop where
  halted :
    ¬ (status.has .emergencyStopActive = true ∧ status.has .trajectoryExecuting = true)
  oneMode : ¬ (status.has .homingInProgress = true ∧ status.has .trajectoryExecuting = true)
  known : status.bits &&& ~~~(Status.ofFlags reported).bits = 0
  counted : status.has .errorPresent = true ↔ 0 < health.errorCount
  coded : 0 < health.errorCount ↔ health.lastErrorCode ≠ 0

theorem byte_ne_zero {error : ErrorCode} : Coded.byte error ≠ 0 ↔ error ≠ .noError := by
  cases error <;> decide

section

variable {b : Board}

/-- The two reports of a sound board agree. What the sensors say does not
matter, since no flag depends on them. -/
theorem Sound.agree (sound : b.Sound) (driverTempAvg controllerTemp : Binary32) (cpuUsage : UInt8) :
    Agree b.status (b.diagnostics driverTempAvg controllerTemp cpuUsage) where
  halted := by
    rw [has_emergencyStopActive, has_trajectoryExecuting]
    exact fun ⟨stopped, operates⟩ => sound.halted stopped operates
  oneMode := by
    rw [has_homingInProgress, has_trajectoryExecuting]
    exact fun ⟨homes, operates⟩ => OperatingMode.noConfusion (homes.symm.trans operates)
  known := status_reported b
  counted := by
    rw [has_errorPresent, UInt16.pos_iff_ne_zero]
    exact sound.counted
  coded := by
    rw [UInt16.pos_iff_ne_zero]
    exact sound.counted.symm.trans byte_ne_zero.symm

/-- A stop holds until the board is set to operation: of all that the board may
hear, only this answers that no stop holds. -/
theorem stopped_stays (stopped : b.stopped = true) {later : List Event}
    (held : .setMode .operation ∉ heard b.segment later) : (b.run later).stopped = true := by
  rw [stopped_run]
  cases last : latest? stops? (heard b.segment later) with
  | none => exact stopped
  | some stop =>
    obtain ⟨before, body, since, told, answer, -⟩ := latest?_eq_some last
    cases body with
    | emergencyStop reason => exact (Option.some.inj answer).symm
    | setMode mode =>
      cases mode with
      | operation => exact absurd (told ▸ List.mem_append_right _ List.mem_cons_self) held
      | _ => cases answer
    | _ => cases answer

/-- An error that was seen stays the last error. -/
theorem lastError_stays (failed : b.lastError ≠ .noError) (later : List Event) :
    (b.run later).lastError ≠ .noError := by
  rw [lastError_run]
  split
  · exact ErrorCode.noConfusion
  · exact failed

end

/-- After any history the reports of a board agree with each other, at any board time and with any
sensor readings. An error is reported from then on. A stop is reported until a command for the board
sets it to operation, and no longer. -/
theorem run_agrees (segment : Segment) (history later : List Event) (now now' : UInt32)
    (orientation orientation' : Orientation) (driverTempAvg controllerTemp : Binary32)
    (cpuUsage : UInt8) :
    let b := (new segment).run history
    let status := (b.motorState now orientation).status
    let status' := ((b.run later).motorState now' orientation').status
    Agree status (b.diagnostics driverTempAvg controllerTemp cpuUsage) ∧
      (status.has .errorPresent = true → status'.has .errorPresent = true) ∧
      (status.has .emergencyStopActive = true → .setMode .operation ∉ heard segment later →
        status'.has .emergencyStopActive = true) ∧
      ∀ command, command.Concerns segment → command.body = .setMode .operation →
        ((b.apply command).2.motorState now' orientation').status.has .emergencyStopActive =
          false := by
  intro b status status'
  have same : b.segment = segment := segment_run ..
  refine ⟨((sound_new segment).run history).agree driverTempAvg controllerTemp cpuUsage, ?_, ?_, ?_⟩
  · intro failed
    exact has_errorPresent.mpr (lastError_stays (has_errorPresent.mp failed) later)
  · intro stopped held
    exact has_emergencyStopActive.mpr
      (stopped_stays (has_emergencyStopActive.mp stopped) (by rwa [same]))
  · intro command concerns operates
    rw [apply_of_concerns (by rwa [same]), operates, Bool.eq_false_iff]
    exact fun stopped => absurd ((Bool.and_false _).symm.trans (has_emergencyStopActive.mp stopped))
      Bool.noConfusion

/-! ## A stop that holds -/

/-- A stop that holds was told, and nothing since has told of another stop or of
operation. The stop is the last answer to the question whether one holds. -/
theorem told_to_stop {segment : Segment} {history : List Event}
    (holds : ((new segment).run history).stopped = true) :
    ∃ before reason since, heard segment history = before ++ .emergencyStop reason :: since ∧
      ∀ body ∈ since, stops? body = none := by
  rw [stopped_run] at holds
  change (latest? stops? (heard segment history)).getD false = true at holds
  cases last : latest? stops? (heard segment history) with
  | none =>
    rw [last] at holds
    cases holds
  | some stop =>
    rw [last] at holds
    obtain rfl : stop = true := holds
    obtain ⟨before, body, since, told, answer, silent⟩ := latest?_eq_some last
    cases body with
    | emergencyStop reason => exact ⟨before, reason, since, told, silent⟩
    | setMode mode => cases mode <;> cases answer
    | _ => cases answer

/-- Where neither a stop nor a mode besides idle is told, a board at rest stays
idle. Operation is ruled out with the stops, since it would lift one. -/
theorem mode_of_quiet {since : List CommandBody} (silent : ∀ body ∈ since, stops? body = none)
    (stays : ∀ homing, .startHoming homing ∉ since) (unset : .setMode .homing ∉ since) :
    (latest? mode? since).getD .idle = .idle := by
  cases last : latest? mode? since with
  | none => rfl
  | some mode =>
    obtain ⟨before, body, rest, told, answer, -⟩ := latest?_eq_some last
    have member : body ∈ since := told ▸ List.mem_append_right _ List.mem_cons_self
    cases body with
    | startHoming homing => exact absurd member (stays homing)
    | setMode set =>
      cases set with
      | idle => exact (Option.some.inj answer).symm
      | homing => exact absurd member unset
      | operation => cases silent _ member
    | emergencyStop reason => cases silent _ member
    | _ => cases answer

/-- Where neither a stop nor a trajectory is told, a board without a trajectory
stays so, since nothing else answers the question for one. -/
theorem trajectory_of_quiet {since : List CommandBody} (silent : ∀ body ∈ since, stops? body = none)
    (unplanned : ∀ t, .trajectory t ∉ since) : (latest? trajectory? since).getD none = none := by
  rw [latest?_eq_none]
  · rfl
  · intro body member
    cases body with
    | trajectory t => exact absurd member (unplanned t)
    | emergencyStop reason => cases silent _ member
    | _ => rfl

/-- The state of a board whose stop holds, by what it was told since the stop. -/
structure StoppedSince (b : Board) (since : List CommandBody) : Prop where
  silent : ∀ body ∈ since, stops? body = none
  halted : b.mode ≠ .operation
  mode_eq : b.mode = (latest? mode? since).getD .idle
  trajectory_eq : b.trajectory = (latest? trajectory? since).getD none
  /-- Only homing takes the board out of idle. -/
  idle : (∀ homing, .startHoming homing ∉ since) → .setMode .homing ∉ since → b.mode = .idle
  /-- Only a trajectory moves the motors. -/
  rests : (∀ t, .trajectory t ∉ since) → b.trajectory = none ∧
    ∀ now orientation, (b.motorState now orientation).motors = .replicate .rest

/-- Where a stop holds, the board was told to stop, and since then neither to stop again nor to
operate. It is idle unless it was put in homing since the stop, and its motors rest unless it was
given a trajectory since. -/
theorem at_rest_until_told {segment : Segment} {history : List Event}
    (holds : ((new segment).run history).stopped = true) :
    ∃ before reason since, heard segment history = before ++ .emergencyStop reason :: since ∧
      ((new segment).run history).StoppedSince since := by
  obtain ⟨before, reason, since, told, silent⟩ := told_to_stop holds
  have heard_eq : heard (new segment).segment history = before ++ .emergencyStop reason :: since :=
    told
  -- The stop answers both questions itself, so what was told before it makes no difference.
  have mode : ((new segment).run history).mode = (latest? mode? since).getD .idle := by
    rw [mode_run, heard_eq, latest?_append, latest?_cons]
    cases latest? mode? since with
    | none => rfl
    | some _ => rfl
  have trajectory : ((new segment).run history).trajectory =
      (latest? trajectory? since).getD none := by
    rw [trajectory_run, heard_eq, latest?_append, latest?_cons]
    cases latest? trajectory? since with
    | none => rfl
    | some _ => rfl
  refine ⟨before, reason, since, told, silent, ((sound_new segment).run history).halted holds, mode,
    trajectory, ?_, ?_⟩
  · intro stays unset
    rw [mode, mode_of_quiet silent stays unset]
  · intro unplanned
    rw [trajectory_of_quiet silent unplanned] at trajectory
    refine ⟨trajectory, fun now orientation => ?_⟩
    rw [motorState, trajectory]

/-- A board that was stopped, put in homing and stopped again is told of a mode
and a jog, while another board is set to operation. It is idle all the same:
neither the mode nor the jog moves it, and the operation was not for it. -/
theorem at_rest_after_stop :
    let history : List Event :=
      [.command ⟨⟨2⟩, .emergencyStop 1⟩, .command ⟨⟨2⟩, .startHoming .full⟩,
        .command ⟨.broadcast, .emergencyStop 7⟩, .rejection, .command ⟨⟨2⟩, .setMode .idle⟩,
        .command ⟨⟨3⟩, .setMode .operation⟩, .command ⟨⟨2⟩, .jogMotor ⟨1, .millimeters, ⟨0⟩, 5⟩⟩]
    ((new ⟨2⟩).run history).stopped = true ∧
      ∃ before reason since, heard ⟨2⟩ history = before ++ .emergencyStop reason :: since ∧
        ((new ⟨2⟩).run history).StoppedSince since := by
  intro history
  have holds : ((new ⟨2⟩).run history).stopped = true := by decide
  exact ⟨holds, at_rest_until_told holds⟩

/-- While its stop holds, a board is put in homing and follows a trajectory, here one that stays at
one millimetre. -/
theorem stopped_in_motion :
    let position : Coefficients := .constant ⟨0x3f800000⟩
    let history : List Event :=
      [.command ⟨⟨2⟩, .emergencyStop 1⟩, .command ⟨⟨2⟩, .setMode .homing⟩,
        .command ⟨⟨2⟩, .trajectory ⟨7, 0, 1000, ⟨position, position, position⟩⟩⟩]
    let b := (new ⟨2⟩).run history
    ¬ (b.stopped = true → b.mode = .idle ∧ b.trajectory = none) ∧ b.mode = .homing ∧
      b.trajectory ≠ none ∧
      (b.motorState 500 ⟨⟨0⟩, ⟨0⟩, ⟨0⟩⟩).motors = .replicate (sampleAt ⟨0x3f800000⟩) := by
  intro position history b
  have stopped : b.stopped = true := by decide
  have homes : b.mode = .homing := by decide
  refine ⟨fun rests => ?_, homes, by decide, by decide +kernel⟩
  exact OperatingMode.noConfusion (homes.symm.trans (rests stopped).1)

end Board

end MotionLink

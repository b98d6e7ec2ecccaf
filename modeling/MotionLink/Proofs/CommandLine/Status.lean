import Mathlib
import MotionLink.CommandLine.Answer
import MotionLink.Proofs.Frame.Errors
import MotionLink.Proofs.Frame.RoundTrip

/-!
# Bad data is reported as bad data

Two requests are answered without a network: to decode a frame, and to encode a
command on a dry run. Each is a row of steps, and whatever is wrong at one of
them is wrong with the data (`BlamesData`), so the row as a whole blames nothing
else. The statuses that `Failure.ofFrame` keeps for a closed connection, for
input and output and for the program itself belong to errors that neither the
decoder nor the encoder has.
-/

namespace MotionLink

open Refusal

/-! ## Building a trajectory -/

namespace Coefficients

theorem ofList_eq_ok {values : List Binary32} {coefficients : Coefficients}
    (built : ofList values = .ok coefficients) : values.length = coefficientCount := by
  unfold ofList at built
  split at built
  · assumption
  · cases built

/-- A list is refused for its length, and the refusal says how long it was. -/
theorem ofList_eq_error {values : List Binary32} {error : FrameError}
    (refused : ofList values = .error error) :
    ∃ count, error = .malformedCommand (.command .trajectory) (.coefficientCount count) := by
  unfold ofList at refused
  split at refused
  · cases refused
  · exact ⟨_, (Except.error.inj refused).symm⟩

end Coefficients

namespace Trajectory

variable (id start : UInt32) (duration : UInt16) {motors : PerMotor (List Binary32)}

/-- A trajectory is built from lists of the right length, and from no others.
Nothing else is looked at: a start, a duration or a coefficient of any value
will do here. -/
theorem exists_ofLists :
    (∃ trajectory, ofLists id start duration motors = .ok trajectory) ↔
      ∀ values ∈ motors.toList, values.length = coefficientCount := by
  simp only [PerMotor.toList, List.forall_mem_cons, List.not_mem_nil, false_imp_iff,
    implies_true, and_true]
  constructor
  · rintro ⟨trajectory, built⟩
    obtain ⟨first, one, built⟩ := bind_eq_ok.mp built
    obtain ⟨second, two, built⟩ := bind_eq_ok.mp built
    obtain ⟨third, three, -⟩ := bind_eq_ok.mp built
    exact ⟨Coefficients.ofList_eq_ok one, Coefficients.ofList_eq_ok two,
      Coefficients.ofList_eq_ok three⟩
  · rintro ⟨first, second, third⟩
    refine ⟨⟨id, start, duration, ⟨⟨_, first⟩, ⟨_, second⟩, ⟨_, third⟩⟩⟩, ?_⟩
    simp only [ofLists, Coefficients.ofList, first, second, third, dif_pos, ok_bind]
    rfl

/-- A trajectory is refused for the length of a list, that of the first motor
whose list is too short or too long. -/
theorem ofLists_eq_error {id start : UInt32} {duration : UInt16} {error : FrameError}
    (refused : ofLists id start duration motors = .error error) :
    ∃ count, error = .malformedCommand (.command .trajectory) (.coefficientCount count) := by
  obtain failed | ⟨first, -, refused⟩ := bind_eq_error.mp refused
  · exact Coefficients.ofList_eq_error failed
  · obtain failed | ⟨second, -, refused⟩ := bind_eq_error.mp refused
    · exact Coefficients.ofList_eq_error failed
    · obtain failed | ⟨third, -, refused⟩ := bind_eq_error.mp refused
      · exact Coefficients.ofList_eq_error failed
      · cases refused

end Trajectory

namespace CommandLine

/-! ## Steps that blame the data -/

/-- A step that fails, if it does, for the data it was given. -/
def BlamesData {α : Type} (step : Except Failure α) : Prop :=
  ∀ failure, step = .error failure → failure.status = .dataInvalid

section

variable {α β : Type}

theorem BlamesData.ok (a : α) : BlamesData (.ok a) := by
  intro failure failed
  cases failed

/-- A row of steps blames the data when each of them does. This is what every
request below is taken apart with, step by step as it is written. -/
theorem BlamesData.bind {step : Except Failure α} {rest : α → Except Failure β}
    (first : BlamesData step) (others : ∀ a, BlamesData (rest a)) :
    BlamesData (step >>= rest) := by
  intro failure failed
  obtain failed | ⟨a, -, failed⟩ := bind_eq_error.mp failed
  · exact first failure failed
  · exact others a failure failed

/-- What is made of the value of a step does not change what it blames. -/
theorem BlamesData.map {step : Except Failure α} (blames : BlamesData step) (f : α → β) :
    BlamesData (step.map f) := by
  intro failure failed
  cases step with
  | error other =>
    cases failed
    exact blames failure rfl
  | ok a => cases failed

/-- A step over frames blames the data when all its errors are the data's. -/
theorem BlamesData.ofFrame {step : Except FrameError α} {context : String}
    (errors : ∀ error, step = .error error →
      (Failure.ofFrame context error).status = .dataInvalid) :
    BlamesData (step.mapError (Failure.ofFrame context)) := by
  intro failure failed
  obtain ⟨error, refused, rfl⟩ := mapError_eq_error.mp failed
  exact errors error refused

end

/-- An error in the bytes of a frame is the data's. -/
theorem status_ofFrame {context : String} {error : FrameError} (inFrame : error.inFrame = true) :
    (Failure.ofFrame context error).status = .dataInvalid := by
  cases error <;> first | rfl | cases inFrame

/-- Digits that are not those of bytes are bad data, whatever decoder is asked. -/
theorem blamesData_hexFrame (tools : Toolbox) (text : String) :
    BlamesData (Argument.hexFrame text tools) := by
  intro failure failed
  obtain ⟨fault, -, rfl⟩ := mapError_eq_error.mp failed
  rfl

/-- A frame that is not decoded is bad data: the decoder has no other errors. -/
theorem blamesData_decode (direction : Direction) (frame : Bytes) (context : String) :
    BlamesData ((Frame.decode direction frame).mapError (Failure.ofFrame context)) := by
  apply BlamesData.ofFrame
  intro error refused
  exact status_ofFrame (Frame.inFrame_of_decode refused)

/-- A command that may not be sent is bad data: validation is all that refuses
it. -/
theorem blamesData_encode (packet : Packet) (context : String) :
    BlamesData ((Frame.encode packet).mapError (Failure.ofFrame context)) := by
  apply BlamesData.ofFrame
  intro error refused
  obtain ⟨fault, rfl⟩ := Frame.validate_eq_error (Frame.encode_eq_error_iff.mp refused)
  rfl

theorem blamesData_ofLists (id start : UInt32) (duration : UInt16)
    (motors : PerMotor (List Binary32)) (context : String) :
    BlamesData ((Trajectory.ofLists id start duration motors).mapError
      (Failure.ofFrame context)) := by
  apply BlamesData.ofFrame
  intro error refused
  obtain ⟨count, rfl⟩ := Trajectory.ofLists_eq_error refused
  rfl

/-! ## The command of a request -/

/-- Whether an action has all that its command takes: a list of coefficients of
the right length for every motor. -/
def SendAction.Complete : SendAction → Prop
  | trajectory _ _ _ motors => ∀ values ∈ motors.toList, values.length = coefficientCount
  | emergencyStop _ | setMode _ | startHoming _ | jog _ _ _ _ | setZeroOffset => True

/-- A command that cannot be built is bad data, and only a trajectory cannot be. -/
theorem blamesData_command (request : SendRequest) : BlamesData request.command := by
  obtain ⟨board, segment, dryRun, datagram, timeout, ports, action⟩ := request
  cases action with
  | trajectory id start duration motors =>
    show BlamesData (((Trajectory.ofLists id start duration motors).mapError
      (Failure.ofFrame "invalid trajectory")).map CommandBody.trajectory >>= fun body =>
        .ok (⟨segment, body⟩ : Command))
    apply BlamesData.bind ((blamesData_ofLists id start duration motors _).map _)
    intro body
    exact BlamesData.ok _
  | _ => exact BlamesData.ok _

/-- There is a command for every complete action, and for no other. The address
and the values of the action play no part in it; they are judged when the
command is encoded. -/
theorem exists_command (request : SendRequest) :
    (∃ command, request.command = .ok command) ↔ request.action.Complete := by
  obtain ⟨board, segment, dryRun, datagram, timeout, ports, action⟩ := request
  cases action with
  | trajectory id start duration motors =>
    rw [SendAction.Complete, ← Trajectory.exists_ofLists id start duration]
    constructor
    · rintro ⟨command, built⟩
      obtain ⟨body, built, -⟩ := bind_eq_ok.mp built
      obtain ⟨trajectory, built, -⟩ := map_eq_ok.mp built
      exact ⟨trajectory, mapError_eq_ok.mp built⟩
    · rintro ⟨trajectory, built⟩
      refine ⟨⟨segment, .trajectory trajectory⟩, ?_⟩
      simp only [SendRequest.command, built]
      rfl
  | _ => exact iff_of_true ⟨_, rfl⟩ trivial

/-! ## Answers -/

/-- The number that an answer ends the program with, if the program can answer
by itself. -/
def exitCode? : Except Failure Outcome → Option Nat
  | .ok (.printed _) => some ExitStatus.success.code
  | .ok .outside => none
  | .error failure => some failure.status.code

/-- An answer that is a verdict on data: 0 when it is good, 60 when it is not,
and no number that speaks of anything else. -/
structure Judges (good : Prop) (answer : Except Failure Outcome) : Prop where
  success : exitCode? answer = some 0 ↔ good
  invalid : exitCode? answer = some 60 ↔ ¬ good
  others : ∀ code ∈ [1, 3, 64, 124, 125], exitCode? answer ≠ some code

/-- An answer that blames the data, and is printed when the data is good. The
numbers of the two verdicts differ, and neither is one of those that speak of
something else. -/
theorem BlamesData.judges {good : Prop} {answer : Except Failure Outcome}
    (blames : BlamesData answer) (printed : (∃ output, answer = .ok (.printed output)) ↔ good)
    (inside : answer ≠ .ok .outside) : Judges good answer := by
  cases answer with
  | ok outcome =>
    cases outcome with
    | outside => exact absurd rfl inside
    | printed output =>
      have holds : good := printed.mp ⟨output, rfl⟩
      have code : exitCode? (.ok (.printed output)) = some 0 := rfl
      refine ⟨iff_of_true code holds, iff_of_false ?_ (not_not_intro holds), ?_⟩ <;>
        rw [code] <;> decide
  | error failure =>
    have fails : ¬ good := by
      intro holds
      obtain ⟨output, impossible⟩ := printed.mpr holds
      cases impossible
    have code : exitCode? (.error failure) = some 60 := by
      rw [exitCode?, blames failure rfl]
      rfl
    refine ⟨iff_of_false ?_ fails, iff_of_true code fails, ?_⟩ <;> rw [code] <;> decide

/-- A request to decode is answered with a packet, or else not answered. What is
printed is the report of that packet in the format asked for. -/
theorem DecodeRequest.run_eq_ok {tools : Toolbox} {request : DecodeRequest}
    {format : OutputFormat} {outcome : Outcome} :
    request.run format tools = .ok outcome ↔
      ∃ frame packet, Argument.hexFrame request.hex tools = .ok frame ∧
        Frame.decode request.direction frame = .ok packet ∧
        outcome = .printed (Report.packet packet frame format tools) := by
  constructor
  · intro answered
    obtain ⟨frame, read, answered⟩ := bind_eq_ok.mp answered
    obtain ⟨packet, decoded, answered⟩ := bind_eq_ok.mp answered
    exact ⟨frame, packet, read, mapError_eq_ok.mp decoded, (Except.ok.inj answered).symm⟩
  · rintro ⟨frame, packet, read, decoded, rfl⟩
    rw [DecodeRequest.run, read, ok_bind, decoded, mapError_ok, ok_bind]
    rfl

theorem DecodeRequest.blamesData_run (tools : Toolbox) (request : DecodeRequest)
    (format : OutputFormat) : BlamesData (request.run format tools) := by
  apply BlamesData.bind (blamesData_hexFrame tools request.hex)
  intro frame
  apply BlamesData.bind (blamesData_decode request.direction frame _)
  intro packet
  exact BlamesData.ok _

section

variable {tools : Toolbox} {request : SendRequest} (dry : request.dryRun = true)

include dry

/-- A dry run ends with the frame of the command. What follows it in a run that
is not dry, a connection and an answer, is never reached. -/
theorem SendRequest.run_of_dryRun (tools : Toolbox) (format : OutputFormat) :
    request.run format tools = (do
      let command ← request.command
      let frame ← (Frame.encode (.command command)).mapError (Failure.ofFrame "encode failed")
      .ok (.printed
        (Report.encoded (.command command.kind) command.segment frame format tools))) := by
  simp only [SendRequest.run, dry, if_true]
  rfl

/-- A dry run is answered with a frame, or else not answered. What is printed is
the report of that frame in the format asked for. -/
theorem SendRequest.run_eq_ok {format : OutputFormat} {outcome : Outcome} :
    request.run format tools = .ok outcome ↔
      ∃ command frame, request.command = .ok command ∧
        Frame.encode (.command command) = .ok frame ∧
        outcome = .printed
          (Report.encoded (.command command.kind) command.segment frame format tools) := by
  rw [run_of_dryRun dry]
  constructor
  · intro answered
    obtain ⟨command, built, answered⟩ := bind_eq_ok.mp answered
    obtain ⟨frame, encoded, answered⟩ := bind_eq_ok.mp answered
    exact ⟨command, frame, built, mapError_eq_ok.mp encoded, (Except.ok.inj answered).symm⟩
  · rintro ⟨command, frame, built, encoded, rfl⟩
    rw [built, ok_bind, encoded, mapError_ok, ok_bind]

theorem SendRequest.blamesData_run (tools : Toolbox) (format : OutputFormat) :
    BlamesData (request.run format tools) := by
  rw [run_of_dryRun dry]
  apply BlamesData.bind (blamesData_command request)
  intro command
  apply BlamesData.bind (blamesData_encode (.command command) _)
  intro frame
  exact BlamesData.ok _

end

/-! ## Verdicts -/

/-- Good data ends the program with 0, bad data with 60, and neither with a
number that tells of a closed connection, a transport, bad usage, a timeout or a
fault of the program. A text to decode is good when it is the digits of a frame
that the decoder takes in the direction asked for. A command to encode on a dry
run is good when it can be built, which takes eight coefficients for each motor
of a trajectory and nothing else, and passes its validation. This is so with any
tools, whatever they print and read. -/
theorem judges_data (tools : Toolbox) :
    (∀ (request : DecodeRequest) (format : OutputFormat),
      Judges (∃ frame packet, Argument.hexFrame request.hex tools = .ok frame ∧
        Frame.decode request.direction frame = .ok packet) (request.run format tools)) ∧
    (∀ (request : SendRequest) (format : OutputFormat), request.dryRun = true →
      Judges (request.action.Complete ∧ ∃ command, request.command = .ok command ∧
        command.validate = .ok ()) (request.run format tools)) ∧
    ∀ request : SendRequest,
      (∃ command, request.command = .ok command) ↔ request.action.Complete := by
  refine ⟨?_, ?_, exists_command⟩
  · intro request format
    apply (request.blamesData_run tools format).judges
    · constructor
      · rintro ⟨output, answered⟩
        obtain ⟨frame, packet, read, decoded, -⟩ := DecodeRequest.run_eq_ok.mp answered
        exact ⟨frame, packet, read, decoded⟩
      · rintro ⟨frame, packet, read, decoded⟩
        exact ⟨_, DecodeRequest.run_eq_ok.mpr ⟨frame, packet, read, decoded, rfl⟩⟩
    · intro answered
      obtain ⟨frame, packet, -, -, printed⟩ := DecodeRequest.run_eq_ok.mp answered
      cases printed
  · intro request format dry
    apply (SendRequest.blamesData_run dry tools format).judges
    · constructor
      · rintro ⟨output, answered⟩
        obtain ⟨command, frame, built, encoded, -⟩ := (SendRequest.run_eq_ok dry).mp answered
        exact ⟨(exists_command request).mp ⟨command, built⟩, command, built,
          Frame.exists_encode.mp ⟨frame, encoded⟩⟩
      · rintro ⟨-, command, built, sound⟩
        obtain ⟨frame, encoded⟩ : ∃ frame, Frame.encode (.command command) = .ok frame :=
          Frame.exists_encode.mpr sound
        exact ⟨_, (SendRequest.run_eq_ok dry).mpr ⟨command, frame, built, encoded, rfl⟩⟩
    · intro answered
      obtain ⟨command, frame, -, -, printed⟩ := (SendRequest.run_eq_ok dry).mp answered
      cases printed

/-- An emergency stop is decoded; a trajectory that lacks a coefficient of the second motor and a
jog over no number are refused as bad data. -/
theorem judges_data_stop :
    let stop : DecodeRequest := ⟨"0x55,0xAA 02:ff010ad8", .masterToBoard⟩
    let eight := List.replicate 8 Binary32.zero
    let short : SendRequest :=
      ⟨.v4 #v[127, 0, 0, 1], ⟨2⟩, true, false, "5s", ⟨5000, 6000⟩,
        .trajectory 0 0 500 ⟨eight, eight.tail, eight⟩⟩
    let jog : SendRequest := { short with action := .jog 1 .nan .millimeters 50 }
    exitCode? (stop.run .table) = some 0 ∧
      (short.dryRun = true ∧ ¬ short.action.Complete ∧ exitCode? (short.run .json) = some 60) ∧
      jog.dryRun = true ∧ jog.action.Complete ∧ exitCode? (jog.run .raw) = some 60 := by
  intro stop eight short jog
  obtain ⟨decodes, sends, -⟩ := judges_data .standard
  have incomplete : ¬ short.action.Complete := by
    intro complete
    have seven := complete eight.tail (by simp [PerMotor.toList])
    cases seven
  have unsound : ¬ ∃ command, jog.command = .ok command ∧ command.validate = .ok () := by
    rintro ⟨command, ⟨⟩, sound⟩
    revert sound
    decide
  refine ⟨?_, ⟨rfl, incomplete, ?_⟩, rfl, trivial, ?_⟩
  · apply (decodes stop .table).success.mpr
    refine ⟨[85, 170, 2, 255, 1, 10, 216], .command ⟨.broadcast, .emergencyStop 1⟩, ?_, ?_⟩
    · decide +kernel
    · decide +kernel
  · apply (sends short .json rfl).invalid.mpr
    rintro ⟨complete, -⟩
    exact incomplete complete
  · apply (sends jog .raw rfl).invalid.mpr
    rintro ⟨-, built⟩
    exact unsound built

end CommandLine

end MotionLink

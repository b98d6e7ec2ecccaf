import MotionLink.Argument.Duration
import MotionLink.Argument.HexFrame
import MotionLink.CommandLine.Invocation
import MotionLink.Report.Packet

/-!
# Answers to requests

What the program answers before it opens a connection. A request is checked as
far as that goes, the frame of a command included; what remains needs the
network, and is left to the caller.
-/

namespace MotionLink.CommandLine

/-- What is left of a request that has no fault. -/
inductive Outcome where
  /-- Nothing but to print this. -/
  | printed (output : Output)
  /-- What the program itself cannot know: the network, or the host it runs on. -/
  | outside
  deriving DecidableEq, Repr

/-- The command to send. -/
def SendRequest.command (request : SendRequest) : Except Failure Command := do
  let body ← match request.action with
    | .emergencyStop reason => pure (.emergencyStop reason)
    | .setMode mode => pure (.setMode mode)
    | .startHoming mode => pure (.startHoming mode)
    | .jog motor distance unit speed => pure (.jogMotor ⟨motor, unit, distance, speed⟩)
    | .setZeroOffset => pure .setZeroOffset
    | .trajectory id start duration motors =>
      ((Trajectory.ofLists id start duration motors).mapError
        (Failure.ofFrame "invalid trajectory")).map .trajectory
  return ⟨request.segment, body⟩

/-- Encodes the command of a request to send, and prints its frame on a dry run. -/
def SendRequest.run (request : SendRequest) (format : OutputFormat)
    (tools : Toolbox := .standard) : Except Failure Outcome := do
  let command ← request.command
  let frame ← (Frame.encode (.command command)).mapError (Failure.ofFrame "encode failed")
  if request.dryRun then
    return .printed (Report.encoded (.command command.kind) command.segment frame format tools)
  else
    let _ ← Argument.duration request.timeout
    if request.datagram && command.kind != .emergencyStop then
      throw ⟨.usage, "--datagram is only valid with `estop`"⟩
    else return .outside

/-- Checks a request to listen. -/
def ListenRequest.run (request : ListenRequest) : Except Failure Outcome := do
  let _ ← Argument.duration request.timeout
  return .outside

/-- Decodes the frame of a request, and prints its packet. -/
def DecodeRequest.run (request : DecodeRequest) (format : OutputFormat)
    (tools : Toolbox := .standard) : Except Failure Outcome := do
  let frame ← Argument.hexFrame request.hex tools
  let packet ← (Frame.decode request.direction frame).mapError (Failure.ofFrame "decode failed")
  return .printed (Report.packet packet frame format tools)

/-- Checks a request to simulate a board. -/
def SimulateRequest.run (request : SimulateRequest) : Except Failure Outcome :=
  if request.rate = 0 ∨ 1000 < request.rate then
    .error ⟨.usage, "--rate-hz must be within 1..=1000"⟩
  else .ok .outside

/-- The name of the program and its version. -/
def versionText : String := "segwire 0.1.0\n"

/-- Answers a request. -/
def Request.run (request : Request) (format : OutputFormat) (tools : Toolbox := .standard) :
    Except Failure Outcome :=
  match request with
  | .send request => request.run format tools
  | .listen request => request.run
  | .decode request => request.run format tools
  | .simulate request => request.run
  | .version false => .ok (.printed (.ofText versionText format))
  | .version true => .ok .outside

/-- How a command line is answered. -/
inductive Answer where
  /-- With a text on its use, and a status. -/
  | usage (status : ExitStatus)
  | failed (failure : Failure)
  | printed (output : Output)
  | outside
  deriving DecidableEq, Repr

/-- The status of a command line that is no request. -/
def Stop.status : Stop → ExitStatus
  | help => .success
  | misuse => .misuse

/-- The format of output that goes to a terminal, or elsewhere. -/
def usualFormat (terminal : Bool) : OutputFormat := if terminal then .table else .json

/-- Answers a command line. -/
def answer (terminal : Bool) (words : List String) (tools : Toolbox := .standard) : Answer :=
  match Invocation.ofWords words with
  | .error stop => .usage stop.status
  | .ok ⟨format, request⟩ =>
    match request.run (format.getD (usualFormat terminal)) tools with
    | .ok (.printed output) => .printed output
    | .ok .outside => .outside
    | .error failure => .failed failure

end MotionLink.CommandLine

import MotionLink.Link.LinkError

/-!
# Failures of the program

A failure ends the program with a message and an exit status. The status tells
bad data from bad usage, a link that could not be used, a timeout and a fault
of the program itself; the message starts with what was being done.
-/

namespace MotionLink

/-- How the program ended. -/
inductive ExitStatus where
  | success
  | failure
  /-- The arguments are not a request. -/
  | misuse
  | transport
  | dataInvalid
  | usage
  | timeout
  | internal
  deriving DecidableEq, Repr

/-- The status as a number. -/
def ExitStatus.code : ExitStatus → Nat
  | success => 0
  | failure => 1
  | misuse => 2
  | transport => 3
  | dataInvalid => 60
  | usage => 64
  | timeout => 124
  | internal => 125

/-- A status other than success, and the reason for it. -/
structure Failure where
  status : ExitStatus
  message : String
  deriving DecidableEq, Repr

namespace Failure

/-- A failure while doing what `context` says. -/
def during (context : String) (status : ExitStatus) (reason : String) : Failure :=
  ⟨status, context ++ ": " ++ reason⟩

/-- The status of a failure of input or output. -/
def ioStatus : IoKind → ExitStatus
  | .timedOut | .wouldBlock => .timeout
  | .connectionRefused | .connectionReset | .addressInUse | .addressNotAvailable => .transport
  | _ => .internal

/-- The failure that a failure of input or output leads to. -/
def ofIo (context : String) (failure : IoFailure) : Failure :=
  during context (ioStatus failure.kind) failure.message

/-- The failure that a socket error leads to. -/
def ofTransport (context : String) (error : TransportError) : Failure :=
  match error with
  | .bind _ failure | .connect _ failure | .accept failure | .io failure => ofIo context failure
  | .datagramTruncated _ | .shortDatagram _ _ => during context .transport error.message

/-- The failure that a frame error leads to. -/
def ofFrame (context : String) (error : FrameError) : Failure :=
  match error with
  | .io failure => ofIo context failure
  | .connectionClosed => during context .failure error.message
  | .layoutMismatch _ _ => during context .internal error.message
  | _ => during context .dataInvalid error.message

/-- The failure that a link error leads to. -/
def ofLink (context : String) (error : LinkError) : Failure :=
  match error with
  | .transport error => ofTransport context error
  | .frame error => ofFrame context error
  | .timeout _ => during context .timeout error.message
  | .disconnected _ => during context .failure error.message
  | .datagramNotAllowed _ => during context .usage error.message

end Failure

end MotionLink

import MotionLink.Duration
import MotionLink.Frame
import MotionLink.Link.Address

/-!
# What can go wrong on a link

Failures of sockets, and of the link that stands on them. Only an emergency
stop travels as a datagram; the datagram of any other command is refused before
it is encoded.
-/

namespace MotionLink

/-- What can go wrong at a socket. -/
inductive TransportError where
  | bind (endpoint : Endpoint) (failure : IoFailure)
  | connect (endpoint : Endpoint) (failure : IoFailure)
  | accept (failure : IoFailure)
  | io (failure : IoFailure)
  /-- A datagram did not fit the room for it and was cut short. -/
  | datagramTruncated (capacity : Nat)
  /-- A datagram went out in part. -/
  | shortDatagram (written length : Nat)
  deriving DecidableEq, Repr

/-- The error in words. -/
def TransportError.message : TransportError → String
  | bind endpoint failure => s!"failed to bind to {endpoint.text}: {failure.message}"
  | connect endpoint failure => s!"failed to connect to {endpoint.text}: {failure.message}"
  | accept failure => s!"failed to accept connection: {failure.message}"
  | io failure => s!"transport I/O error: {failure.message}"
  | datagramTruncated capacity => s!"datagram truncated (buffer {capacity} bytes)"
  | shortDatagram written length => s!"short datagram write ({written} of {length} bytes)"

/-- What can go wrong on a link. -/
inductive LinkError where
  | transport (error : TransportError)
  | frame (error : FrameError)
  /-- The other end closed the connection. -/
  | disconnected (reason : String)
  /-- No frame arrived in time. -/
  | timeout (waited : Duration)
  | datagramNotAllowed (kind : CommandKind)
  deriving DecidableEq, Repr

namespace LinkError

/-- The error in words. -/
def message : LinkError → String
  | transport error => s!"transport error: {error.message}"
  | frame error => s!"frame error: {error.message}"
  | disconnected reason => s!"link disconnected: {reason}"
  | timeout waited => s!"no frame within {waited.text}"
  | datagramNotAllowed kind => s!"{kind.name} cannot be sent over the datagram transport"

/-- Whether the link was only idle for too long. -/
def isTimeout : LinkError → Bool
  | timeout _ => true
  | transport _ | frame _ | disconnected _ | datagramNotAllowed _ => false

end LinkError

/-- The datagram that carries a command. -/
def Command.datagram (command : Command) : Except LinkError Bytes :=
  if command.kind = .emergencyStop then (Frame.encode (.command command)).mapError .frame
  else .error (.datagramNotAllowed command.kind)

end MotionLink

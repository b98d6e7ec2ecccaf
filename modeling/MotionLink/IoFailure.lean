/-!
# Failures of input and output

What a stream, sink or socket may report, by kind. A failure may come with a
note of its own; otherwise its message is the text of its kind.
-/

namespace MotionLink

/-- The kinds of failure a transport can report. -/
inductive IoKind where
  | timedOut
  | wouldBlock
  | interrupted
  | connectionRefused
  | connectionReset
  | connectionAborted
  | addressInUse
  | addressNotAvailable
  | brokenPipe
  | unexpectedEnd
  | notConnected
  | permissionDenied
  | notFound
  | invalidInput
  | invalidData
  | writeZero
  | other
  deriving DecidableEq, Repr

/-- The kind in words. -/
def IoKind.text : IoKind → String
  | timedOut => "timed out"
  | wouldBlock => "operation would block"
  | interrupted => "operation interrupted"
  | connectionRefused => "connection refused"
  | connectionReset => "connection reset"
  | connectionAborted => "connection aborted"
  | addressInUse => "address in use"
  | addressNotAvailable => "address not available"
  | brokenPipe => "broken pipe"
  | unexpectedEnd => "unexpected end of file"
  | notConnected => "not connected"
  | permissionDenied => "permission denied"
  | notFound => "entity not found"
  | invalidInput => "invalid input parameter"
  | invalidData => "invalid data"
  | writeZero => "write zero"
  | other => "other error"

/-- A failure of a kind, with a note where its reporter gave one. -/
structure IoFailure where
  kind : IoKind
  note : Option String := none
  deriving DecidableEq, Repr

/-- The failure in words. -/
def IoFailure.message (failure : IoFailure) : String :=
  failure.note.getD failure.kind.text

end MotionLink

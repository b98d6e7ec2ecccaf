import MotionLink.Frame

/-!
# Sinks of frames

An outlet answers writes and flushes from scripts: it takes some of the bytes
it is offered or fails, and once a script is used up it takes all. A sink is an
outlet with a buffer in front of it, in which each call puts together what it
writes. What is left in the buffer is offered until all of it is taken; then the
outlet is flushed. Interruptions and an outlet that is not ready are waited out,
and an outlet that takes no byte counts as closed.

`Outlet.remaining` counts the events and bytes that are left. Each write that is
followed by another makes it smaller (`remaining_write_lt`), so the writes end.
-/

namespace MotionLink

/-- What an outlet does with a write. -/
inductive WriteEvent where
  /-- Takes at most this many bytes. -/
  | accept (count : Nat)
  | failure (failure : IoFailure)
  deriving DecidableEq, Repr

/-- What an outlet does with a flush. -/
inductive FlushEvent where
  | done
  | failure (failure : IoFailure)
  deriving DecidableEq, Repr

/-- Scripts of an outlet, and a record of what it has been asked and has taken. -/
structure Outlet where
  writeEvents : List WriteEvent
  flushEvents : List FlushEvent
  writes : Nat := 0
  flushes : Nat := 0
  taken : Bytes := []
  deriving DecidableEq, Repr

/-- Whether a failure passes by itself, so that the call is repeated. -/
def IoFailure.isTransient (failure : IoFailure) : Bool :=
  failure.kind = .interrupted || failure.kind = .wouldBlock

namespace Outlet

/-- Answers a write with the number of bytes taken off the front of those offered. -/
def write (o : Outlet) (offered : Bytes) : Except IoFailure Nat × Outlet :=
  let writes := o.writes + 1
  match o.writeEvents with
  | [] => (.ok offered.length, { o with writes := writes, taken := o.taken ++ offered })
  | .accept count :: events =>
    (.ok (min count offered.length),
      { o with writeEvents := events, writes := writes, taken := o.taken ++ offered.take count })
  | .failure failure :: events =>
    (.error failure, { o with writeEvents := events, writes := writes })

/-- Answers a flush. -/
def flush (o : Outlet) : Except IoFailure Unit × Outlet :=
  let flushes := o.flushes + 1
  match o.flushEvents with
  | [] => (.ok (), { o with flushes := flushes })
  | .done :: events => (.ok (), { o with flushEvents := events, flushes := flushes })
  | .failure failure :: events =>
    (.error failure, { o with flushEvents := events, flushes := flushes })

/-- How many events of writes are left, and how many of `pending` bytes. -/
def remaining (o : Outlet) (pending : Nat) : Nat := o.writeEvents.length + pending

/-- A write that takes a byte or fails leaves less. -/
theorem remaining_write_lt {o o' : Outlet} {offered : Bytes} {reply : Except IoFailure Nat}
    (step : o.write offered = (reply, o')) (more : 0 < offered.length) (taken : reply ≠ .ok 0) :
    o'.remaining (offered.length - reply.toOption.getD 0) < o.remaining offered.length := by
  unfold write at step
  split at step <;> rename_i script <;> simp only [Prod.mk.injEq] at step <;>
    obtain ⟨rfl, rfl⟩ := step <;> simp only [remaining, script, List.length_cons]
  · simp only [Except.toOption, Option.getD_some]
    omega
  · omega
  · omega

/-- A flush that fails leaves fewer events. -/
theorem length_flushEvents_lt {o o' : Outlet} {failure : IoFailure}
    (step : o.flush = (.error failure, o')) : o'.flushEvents.length < o.flushEvents.length := by
  unfold flush at step
  split at step <;> rename_i script <;> simp only [Prod.mk.injEq, reduceCtorEq, false_and] at step
  rw [← step.2, script]
  exact Nat.lt_add_one _

/-- Offers what is left of a buffer from `offset` on, until all is taken. -/
def writeAll (o : Outlet) (buffer : Bytes) (offset : Nat) : Except FrameError Unit × Outlet :=
  if left : offset < buffer.length then
    have more : 0 < (buffer.drop offset).length := by
      rw [List.length_drop]
      omega
    match step : o.write (buffer.drop offset) with
    | (.ok 0, o') => (.error .connectionClosed, o')
    | (.ok (count + 1), o') =>
      have := remaining_write_lt step more (by simp)
      o'.writeAll buffer (offset + (count + 1))
    | (.error failure, o') =>
      have := remaining_write_lt step more (by simp)
      if failure.isTransient then o'.writeAll buffer offset else (.error (.io failure), o')
  else (.ok (), o)
  termination_by o.remaining (buffer.length - offset)
  decreasing_by
    all_goals
      simp only [remaining, List.length_drop, Except.toOption, Option.getD_some,
        Option.getD_none] at this ⊢
      omega

/-- Flushes until it is done. -/
def flushAll (o : Outlet) : Except FrameError Unit × Outlet :=
  match step : o.flush with
  | (.ok (), o') => (.ok (), o')
  | (.error failure, o') =>
    have := length_flushEvents_lt step
    if failure.isTransient then o'.flushAll else (.error (.io failure), o')
  termination_by o.flushEvents.length

/-- Flushes after writes that have gone through. -/
def conclude : Except FrameError Unit × Outlet → Except FrameError Unit × Outlet
  | (.ok (), o) => o.flushAll
  | (.error error, o) => (.error error, o)

/-- Writes a buffer, then flushes. -/
def transmit (o : Outlet) (buffer : Bytes) : Except FrameError Unit × Outlet :=
  conclude (o.writeAll buffer 0)

end Outlet

/-- An outlet, and the bytes that the latest call has put together for it. -/
structure Sink extends Outlet where
  buffer : Bytes := []
  deriving DecidableEq, Repr

namespace Sink

/-- Flushes the outlet. -/
def flush (s : Sink) : Except FrameError Unit × Sink :=
  let (result, outlet) := s.toOutlet.flushAll
  (result, { s with toOutlet := outlet })

/-- Writes the buffer, then flushes. -/
def writeBuffer (s : Sink) : Except FrameError Unit × Sink :=
  let (result, outlet) := s.toOutlet.transmit s.buffer
  (result, { s with toOutlet := outlet })

/-- Writes bytes as they are, then flushes. -/
def writeRaw (s : Sink) (bytes : Bytes) : Except FrameError Unit × Sink :=
  writeBuffer { s with buffer := bytes }

/-- Writes the frame of a packet, then flushes. A packet that is refused does not
reach the outlet. -/
def send (s : Sink) (packet : Packet) : Except FrameError Unit × Sink :=
  let (result, buffer) := Frame.append [] packet
  let s : Sink := { s with buffer := buffer }
  match result with
  | .ok () => s.writeBuffer
  | .error error => (.error error, s)

end Sink

end MotionLink

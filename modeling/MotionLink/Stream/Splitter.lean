import MotionLink.Frame

/-!
# Splitting a byte stream into frames

A stream carries frames back to back with no delimiter. The type id in the
first bytes of a frame selects its layout, and the layout tells how long the
frame is; the stage of a splitter says whether that layout is known yet. Only
the type id is looked at here: whether a frame is intact is for
`Frame.decode` to find out.

An unknown type id leaves no way to find the next frame, so all bytes at hand
are dropped with it. Otherwise a frame is taken off the front whole or not at
all, so an answer other than "not yet" makes the buffer shorter
(`length_buffer_next_lt`).
-/

namespace MotionLink

/-- What is known of the frame at the front of a stream. -/
inductive Stage where
  | awaitingHeader
  | awaitingBody (layout : Layout)
  deriving DecidableEq, Repr

/-- The bytes of a stream that have not been taken as frames yet. -/
structure Splitter where
  direction : Direction
  stage : Stage
  buffer : Bytes
  deriving DecidableEq, Repr

namespace Splitter

/-- A splitter that has seen no bytes. -/
def start (direction : Direction) : Splitter := ⟨direction, .awaitingHeader, []⟩

/-- Puts bytes behind those at hand. -/
def extend (s : Splitter) (bytes : Bytes) : Splitter := { s with buffer := s.buffer ++ bytes }

/-- Forgets all bytes. -/
def reset (s : Splitter) : Splitter := start s.direction

/-- Takes a frame of a known layout off the front, if all of it is there. -/
def takeBody (s : Splitter) (layout : Layout) : Option Bytes × Splitter :=
  if s.buffer.length < layout.frameLength then (none, { s with stage := .awaitingBody layout })
  else
    (some (s.buffer.take layout.frameLength),
      ⟨s.direction, .awaitingHeader, s.buffer.drop layout.frameLength⟩)

/-- Takes the next frame off the front, if all of it is there. -/
def next (s : Splitter) : Except FrameError (Option Bytes) × Splitter :=
  match s.stage with
  | .awaitingBody layout => let (frame, s) := s.takeBody layout; (.ok frame, s)
  | .awaitingHeader =>
    if s.buffer.length < Frame.probeLength then (.ok none, s)
    else
      match Layout.lookup s.direction (Frame.typeId s.buffer) with
      | .ok layout => let (frame, s) := s.takeBody layout; (.ok frame, s)
      | .error error => (.error error, { s with buffer := [] })

/-- The frame at the front that the end of the stream cuts off. -/
def truncation (s : Splitter) : FrameError :=
  .truncatedFrame s.buffer.length <|
    match s.stage with
    | .awaitingHeader => none
    | .awaitingBody layout => some layout.frameLength

theorem length_buffer_takeBody_lt {s s' : Splitter} {layout : Layout} {frame : Bytes}
    (taken : s.takeBody layout = (some frame, s')) : s'.buffer.length < s.buffer.length := by
  have : 0 < layout.frameLength := by
    unfold Layout.frameLength Checksum.width; omega
  unfold takeBody at taken
  split at taken
  · simp at taken
  · simp only [Prod.mk.injEq, Option.some.injEq] at taken
    rw [← taken.2]
    simp only [List.length_drop]
    omega

/-- An answer other than "not yet" makes the buffer shorter. -/
theorem length_buffer_next_lt {s s' : Splitter} {answer : Except FrameError (Option Bytes)}
    (step : s.next = (answer, s')) (settled : answer ≠ .ok none) :
    s'.buffer.length < s.buffer.length := by
  have body (layout : Layout)
      (taken : (let (frame, s) := s.takeBody layout; (Except.ok frame, s)) = (answer, s')) :
      s'.buffer.length < s.buffer.length := by
    cases h : s.takeBody layout with
    | mk frame rest =>
      simp only [h, Prod.mk.injEq] at taken
      obtain ⟨rfl, rfl⟩ := taken
      cases frame with
      | none => exact absurd rfl settled
      | some frame => exact length_buffer_takeBody_lt h
  unfold next at step
  split at step
  · exact body _ step
  · split at step
    · simp only [Prod.mk.injEq] at step
      exact absurd step.1.symm settled
    · rename_i long
      split at step
      · exact body _ step
      · simp only [Prod.mk.injEq] at step
        rw [← step.2]
        unfold Frame.probeLength at long
        simp only [List.length_nil]
        omega

end Splitter

end MotionLink

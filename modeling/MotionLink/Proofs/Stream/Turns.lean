import Mathlib
import MotionLink.Proofs.Frame.Errors
import MotionLink.Proofs.Stream.Runs
import MotionLink.Stream.FrameReader

/-!
# The turns of a reader

A call of a reader goes round a loop: look for a frame, read, take in what has
arrived. `FrameReader.turn` is one round of it, and `readFrame_eq` says that a
call turns until there is an answer. A round without an answer leaves less in
store, so whatever every turn keeps is kept by a call (`readFrame_rule`).

The four calls differ only in what they make of a frame (`Call.answer`). A run
is any sequence of calls, answered one after the other.
-/

namespace MotionLink

/-- What is made of the answer to a read: nothing yet, or why there is no frame. -/
def Reassembler.arrive (r : Reassembler) : Except IoFailure Bytes → Option FrameError × Reassembler
  | .error failure => (if failure.kind = .interrupted then none else some (.io failure), r)
  | .ok [] =>
    match r.finish with
    | (.ok (), r) => (some .connectionClosed, r)
    | (.error error, r) => (some error, r)
  | .ok (byte :: bytes) =>
    match r.push (byte :: bytes) with
    | (.ok (), r) => (none, r)
    | (.error error, r) => (some error, r)

namespace FrameReader

/-! ## One turn -/

/-- One round of the loop: an answer, or none yet. -/
def turn (r : FrameReader) : Option (Except FrameError Bytes) × FrameReader :=
  match r.reassembler.nextFrame with
  | (.error error, held) => (some (.error error), { r with reassembler := held })
  | (.ok (some frame), held) => (some (.ok frame), { r with reassembler := held })
  | (.ok none, held) =>
    let (arrival, source) := r.source.read r.chunk
    let (error, held) := held.arrive arrival
    (error.map .error, { r with reassembler := held, source := source })

section

variable {r r' : FrameReader} {held : Reassembler}

/-- A turn that finds an unknown type answers with the refusal, and does not
read. -/
theorem turn_of_error {error : FrameError} (next : r.reassembler.nextFrame = (.error error, held)) :
    r.turn = (some (.error error), { r with reassembler := held }) := by
  simp only [turn, next]

/-- A turn that finds a frame answers with it, and does not read. -/
theorem turn_of_frame {frame : Bytes} (next : r.reassembler.nextFrame = (.ok (some frame), held)) :
    r.turn = (some (.ok frame), { r with reassembler := held }) := by
  simp only [turn, next]

/-- Without a frame at hand, a turn reads, once, and answers with what the
arrival is refused for, if it is refused. -/
theorem turn_of_none (next : r.reassembler.nextFrame = (.ok none, held)) :
    r.turn =
      ((held.arrive (r.source.read r.chunk).1).1.map .error,
        { r with
          reassembler := (held.arrive (r.source.read r.chunk).1).2
          source := (r.source.read r.chunk).2 }) := by
  simp only [turn, next]

/-- A turn answers with what is at hand, unless there is no frame. It leaves the
source alone in the one case and reads in the other. -/
theorem turn_cases (r : FrameReader) :
    (r.reassembler.nextFrame.1 ≠ .ok none ∧ ∃ answer,
      r.turn = (some answer, { r with reassembler := r.reassembler.nextFrame.2 })) ∨
    ∃ held, r.reassembler.nextFrame = (.ok none, held) := by
  cases next : r.reassembler.nextFrame with
  | mk answer held =>
    cases answer with
    | error error => exact .inl ⟨nofun, .error error, turn_of_error next⟩
    | ok frame? =>
      cases frame? with
      | some frame => exact .inl ⟨nofun, .ok frame, turn_of_frame next⟩
      | none => exact .inr ⟨held, rfl⟩

/-- A turn without an answer has read something, or was interrupted. Both take
from the store of the source, which is why a call comes to an end. -/
theorem supply_turn_lt (more : r.turn = (none, r')) : r'.source.supply < r.source.supply := by
  rcases r.turn_cases with ⟨-, answer, answers⟩ | ⟨held, next⟩
  · rw [answers] at more
    cases more
  · rw [turn_of_none next, Prod.mk.injEq, Option.map_eq_none_iff] at more
    obtain ⟨quiet, rfl⟩ := more
    refine Source.supply_read_lt (Prod.mk.eta).symm r.chunk_pos fun ended => ?_
    rw [ended, Reassembler.arrive] at quiet
    split at quiet <;> cases quiet

end

/-! ## A call -/

/-- A call turns until there is an answer. The call is defined as one loop with
all its cases; this is the only place where these are gone through. -/
theorem readFrame_eq (r : FrameReader) :
    r.readFrame =
      match r.turn with
      | (some answer, r') => (answer, r')
      | (none, r') => r'.readFrame := by
  rw [readFrame]
  split
  · rename_i next
    rw [turn_of_error next]
  · rename_i next
    rw [turn_of_frame next]
  · rename_i held next
    -- What the loop does with the result of a read is what `arrive` makes of it, case by case.
    rw [turn_of_none next]
    split
    · rename_i failure source read
      by_cases interrupted : failure.kind = .interrupted
      · simp only [read, Reassembler.arrive, interrupted, if_true, Option.map_none]
      · simp only [read, Reassembler.arrive, interrupted, if_false, Option.map_some]
    · rename_i source read
      simp only [read, Reassembler.arrive]
      cases held.finish with
      | mk result held =>
        cases result with
        | ok _ => rfl
        | error error => rfl
    · rename_i byte bytes source read
      simp only [read, Reassembler.arrive]
      cases held.push (byte :: bytes) with
      | mk result held =>
        cases result with
        | ok _ => rfl
        | error error => rfl

/-- What every turn of a call keeps holds when the call answers. The induction
is on what the source has in store, and stays in here: the invariants of a
reader are shown for a turn. -/
theorem readFrame_rule (During : FrameReader → Prop)
    (After : Except FrameError Bytes → FrameReader → Prop)
    (again : ∀ r r', During r → r.turn = (none, r') → During r')
    (done : ∀ r r' answer, During r → r.turn = (some answer, r') → After answer r')
    {r : FrameReader} (start : During r) : After r.readFrame.1 r.readFrame.2 := by
  induction size : r.source.supply using Nat.strong_induction_on generalizing r with
  | h supply ih =>
    rw [readFrame_eq]
    cases step : r.turn with
    | mk answer r' =>
      cases answer with
      | some answer => exact done r r' answer start step
      | none => exact ih _ (size ▸ supply_turn_lt step) (again r r' start step) rfl

/-! ## The four calls -/

/-- What a reader may be asked for. -/
inductive Call where
  | frame
  | packet
  | command
  | feedback
  deriving DecidableEq, Repr

/-- The answer to a call. -/
inductive Answer where
  | frame (result : Except FrameError Bytes)
  | packet (result : Except FrameError Packet)
  | command (result : Except FrameError Command)
  | feedback (result : Except FrameError Feedback)
  deriving Repr

/-- Asks a reader. -/
def call (r : FrameReader) : Call → Answer × FrameReader
  | .frame => let (result, r) := r.readFrame; (.frame result, r)
  | .packet => let (result, r) := r.readPacket; (.packet result, r)
  | .command => let (result, r) := r.readCommand; (.command result, r)
  | .feedback => let (result, r) := r.readFeedback; (.feedback result, r)

/-- Asks a reader one thing after the other. -/
def run (r : FrameReader) (calls : List Call) : List Answer × FrameReader := converse call r calls

/-- What a call makes of the next frame. -/
def Call.answer (direction : Direction) (outcome : Except FrameError Bytes) : Call → Answer
  | .frame => .frame outcome
  | .packet => .packet (outcome.bind (Frame.decode direction))
  | .command => .command (outcome.bind Frame.decodeCommand)
  | .feedback => .feedback (outcome.bind Frame.decodeFeedback)

/-- Why a call gave nothing. -/
def Answer.error? : Answer → Option FrameError
  | .frame result => Refusal.error? result
  | .packet result => Refusal.error? result
  | .command result => Refusal.error? result
  | .feedback result => Refusal.error? result

/-- A step that fails on frames only leaves the errors of a stream to the
reader, so an overflow or an end of the stream is never hidden or made up by
decoding. -/
theorem error_of_bind {α : Type} {outcome : Except FrameError Bytes}
    {decode : Bytes → Except FrameError α}
    (frames : ∀ {frame error}, decode frame = .error error → error.ofStream = false)
    {error : FrameError} (failed : Refusal.error? (outcome.bind decode) = some error) :
    outcome = .error error ∨ error.ofStream = false := by
  have failed := Refusal.error?_eq_some.mp failed
  cases outcome with
  | error cause => exact .inl (congrArg _ (Except.error.inj failed))
  | ok frame => exact .inr (frames failed)

/-- What a call adds to the errors of a reader is not an error of a stream. -/
theorem Call.error?_answer {direction : Direction} {outcome : Except FrameError Bytes} {call : Call}
    {error : FrameError} (failed : (call.answer direction outcome).error? = some error) :
    outcome = .error error ∨ error.ofStream = false := by
  cases call with
  | frame => exact .inl (Refusal.error?_eq_some.mp failed)
  | packet => exact error_of_bind Frame.ofStream_of_decode failed
  | command => exact error_of_bind Frame.ofStream_of_decodeCommand failed
  | feedback => exact error_of_bind Frame.ofStream_of_decodeFeedback failed

/-- The four calls read a frame in the same way, and differ in what they make of
it. -/
theorem call_eq (r : FrameReader) (call : Call) :
    r.call call = (call.answer r.readFrame.2.direction r.readFrame.1, r.readFrame.2) := by
  cases call <;> rfl

end FrameReader

end MotionLink

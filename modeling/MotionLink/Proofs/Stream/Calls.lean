import Mathlib
import MotionLink.Proofs.Stream.Runs
import MotionLink.Stream.Reassembler

/-!
# Runs of a reassembler

A run is any sequence of calls, answered one after the other. The chunks a run
pushes (`Call.chunks`) and the packets it takes (`Answer.packets`) follow the
order of the calls; both split where a run is split (`converse_append`).
-/

namespace MotionLink.Reassembler

/-- What a reassembler may be asked. -/
inductive Call where
  | push (chunk : Bytes)
  | nextFrame
  | nextPacket
  | finish
  | reset
  deriving DecidableEq, Repr

/-- The answer to a call. A reset has no way to fail. -/
inductive Answer where
  | done (result : Except FrameError Unit)
  | frame (result : Except FrameError (Option Bytes))
  | packet (result : Except FrameError (Option Packet))
  deriving Repr

/-- The bytes a call brings. -/
def Call.chunk : Call → Bytes
  | .push chunk => chunk
  | _ => []

/-- The bytes that calls bring, in order. -/
def Call.chunks (calls : List Call) : Bytes := calls.flatMap chunk

/-- The packet an answer gives, or why its frame has none; "not yet" gives nothing. -/
def Answer.packet? : Answer → Option (Except FrameError Packet)
  | .packet (.ok (some taken)) => some (.ok taken)
  | .packet (.error error) => some (.error error)
  | _ => none

/-- Whether an answer refuses a chunk for want of room. -/
def Answer.overflows : Answer → Bool
  | .done (.error (.bufferOverflow _ _)) => true
  | _ => false

/-- The packets that answers give, in order. -/
def Answer.packets (answers : List Answer) : List (Except FrameError Packet) :=
  answers.filterMap packet?

/-- Asks a reassembler. -/
def call (r : Reassembler) : Call → Answer × Reassembler
  | .push chunk => let (result, r) := r.push chunk; (.done result, r)
  | .nextFrame => let (result, r) := r.nextFrame; (.frame result, r)
  | .nextPacket => let (result, r) := r.nextPacket; (.packet result, r)
  | .finish => let (result, r) := r.finish; (.done result, r)
  | .reset => (.done (.ok ()), r.reset)

/-- Asks a reassembler one thing after the other. -/
def run (r : Reassembler) (calls : List Call) : List Answer × Reassembler := converse call r calls

theorem call_push (r : Reassembler) (chunk : Bytes) :
    r.call (.push chunk) = (.done (r.push chunk).1, (r.push chunk).2) := rfl

theorem call_nextFrame (r : Reassembler) :
    r.call .nextFrame = (.frame r.nextFrame.1, r.nextFrame.2) := rfl

theorem call_finish (r : Reassembler) : r.call .finish = (.done r.finish.1, r.finish.2) := rfl

/-- A packet is asked for, and the answer may be the refusal of a frame. -/
theorem call_nextPacket (r : Reassembler) :
    r.call .nextPacket = (.packet r.nextPacket.1, r.nextPacket.2) := rfl

/-- A packet is made of the next frame. What is left is what the search for the
frame leaves, whether the frame could be decoded or not. -/
theorem nextPacket_eq (r : Reassembler) :
    r.nextPacket =
      (match r.nextFrame.1 with
        | .ok (some frame) => some <$> Frame.decode r.nextFrame.2.direction frame
        | .ok none => .ok none
        | .error error => .error error, r.nextFrame.2) := by
  unfold nextPacket
  cases r.nextFrame with
  | mk found rest =>
    cases found with
    | error error => rfl
    | ok frame? =>
      cases frame? with
      | none => rfl
      | some frame => rfl

/-- The bytes of a first call come before those of the calls behind it. -/
theorem Call.chunks_cons (call : Call) (calls : List Call) :
    chunks (call :: calls) = call.chunk ++ chunks calls :=
  List.flatMap_cons

/-- The bytes of two stretches of calls come one after the other. -/
theorem Call.chunks_append (calls calls' : List Call) :
    chunks (calls ++ calls') = chunks calls ++ chunks calls' :=
  List.flatMap_append

theorem Answer.packets_append (answers answers' : List Answer) :
    packets (answers ++ answers') = packets answers ++ packets answers' :=
  List.filterMap_append

theorem Answer.packets_none (answers : List Answer) :
    packets (.packet (.ok none) :: answers) = packets answers := rfl

/-- An answer that settles a frame, in the form that answers keep it: a packet
or the refusal of the frame, and in both cases one entry of the list. -/
theorem Answer.packets_packet (result : Except FrameError Packet) (answers : List Answer) :
    packets (.packet (some <$> result) :: answers) = result :: packets answers := by
  cases result with
  | error error => rfl
  | ok packet => rfl

end MotionLink.Reassembler

import Mathlib
import MotionLink.Proofs.Stream.Calls
import MotionLink.Proofs.Stream.Room

/-!
# The bytes that pass through a reassembler

Every byte a reassembler takes in is still at hand or was taken off the front,
in the order of arrival. What a call takes off is a whole frame, handed out or
tried as a packet, or all bytes at hand, where they are forgotten
(`Reassembler.Removal`). `Reassembler.Ledger` lists these pieces call by call.
Each line of it balances, so the whole balances (`Ledger.balance`).

The lines follow from the invariant `Reassembler.Bounded`, which every call
keeps (`Bounded.call`): a stage that names a layout names that of the bytes at
hand, so a frame is never cut with the length of another.
-/

namespace MotionLink.Reassembler

/-! ## One call -/

/-- The bytes that a call brought and that were taken in. -/
def received (call : Call) : Answer → Bytes
  | .done (.ok ()) => call.chunk
  | _ => []

theorem received_of_chunk {call : Call} (silent : call.chunk = []) (answer : Answer) :
    received call answer = [] := by
  unfold received
  split
  · exact silent
  · rfl

/-- Whether an answer leaves the bytes at hand as they are: there was no frame, or nothing to
refuse. -/
def Answer.quiet : Answer → Bool
  | .done (.ok ()) | .frame (.ok none) | .packet (.ok none) => true
  | _ => false

/-- What an answered call took off the bytes at hand, and on what ground. -/
inductive Removal (direction : Direction) (buffer : Bytes) : Call → Answer → Bytes → Prop where
  /-- A whole frame was handed out. -/
  | frame {frame : Bytes} (whole : IsBlock direction frame) :
      Removal direction buffer .nextFrame (.frame (.ok (some frame))) frame
  /-- A whole frame was decoded. -/
  | packet {frame : Bytes} {packet : Packet} (whole : IsBlock direction frame)
      (decoded : Frame.decode direction frame = .ok packet) :
      Removal direction buffer .nextPacket (.packet (.ok (some packet))) frame
  /-- A whole frame was not intact. -/
  | damaged {frame : Bytes} {error : FrameError} (whole : IsBlock direction frame)
      (refused : Frame.decode direction frame = .error error) :
      Removal direction buffer .nextPacket (.packet (.error error)) frame
  /-- All bytes were dropped with a type that is not known. -/
  | unknownFrame :
      Removal direction buffer .nextFrame
        (.frame (.error (.unknownPacketType direction (Frame.typeId buffer)))) buffer
  /-- All bytes were dropped with a type that is not known. -/
  | unknownPacket :
      Removal direction buffer .nextPacket
        (.packet (.error (.unknownPacketType direction (Frame.typeId buffer)))) buffer
  /-- All bytes were dropped for a chunk without room. -/
  | overflow {chunk : Bytes} {limit : Nat} :
      Removal direction buffer (.push chunk)
        (.done (.error (.bufferOverflow (buffer.length + chunk.length) limit))) buffer
  /-- All bytes were dropped at the end of the stream. -/
  | truncated {expected : Option Nat} :
      Removal direction buffer .finish
        (.done (.error (.truncatedFrame buffer.length expected))) buffer
  /-- All bytes were dropped on demand. -/
  | reset : Removal direction buffer .reset (.done (.ok ())) buffer
  /-- No byte was taken off. -/
  | nothing {call : Call} {answer : Answer} (kept : call ≠ .reset) (quiet : answer.quiet) :
      Removal direction buffer call answer []

variable {r : Reassembler}

/-- A chunk that does not fit in costs all bytes at hand. -/
theorem push_of_lt {chunk : Bytes} (full : r.limit < r.buffered + chunk.length) :
    r.push chunk = (.error (.bufferOverflow (r.buffered + chunk.length) r.limit), r.reset) := by
  simp only [push, full, if_true]

/-- What `nextFrame` takes off, by the front of the bytes at hand: nothing, a
whole frame, or all of them with an unknown type. -/
theorem Bounded.nextFrame_cases (bounded : r.Bounded) :
    (r.nextFrame.1 = .ok none ∧ r.nextFrame.2.splitter.buffer = r.splitter.buffer) ∨
    (∃ frame, IsBlock r.direction frame ∧ r.nextFrame.1 = .ok (some frame) ∧
      r.splitter.buffer = frame ++ r.nextFrame.2.splitter.buffer) ∨
    (r.nextFrame.1 =
        .error (.unknownPacketType r.direction (Frame.typeId r.splitter.buffer)) ∧
      r.nextFrame.2.splitter.buffer = []) := by
  rcases bounded.nextFrame_outcome with ⟨-, step⟩ | ⟨frame, more, whole, front, step⟩ | step <;>
    rw [step]
  · exact .inl ⟨rfl, rfl⟩
  · exact .inr (.inl ⟨frame, whole, rfl, front⟩)
  · exact .inr (.inr ⟨rfl, rfl⟩)

/-- A call keeps the invariant, the limit and the direction. This is the step of
every induction over the calls of a reassembler. -/
theorem Bounded.call (bounded : r.Bounded) (call : Call) :
    (r.call call).2.Bounded ∧ (r.call call).2.limit = r.limit ∧
      (r.call call).2.direction = r.direction := by
  obtain ⟨kept, limit, -, -⟩ := bounded.nextFrame
  have travels : r.nextFrame.2.direction = r.direction := bounded.coherent.next.1
  cases call with
  | push chunk =>
    rw [call_push]
    by_cases full : r.limit < r.buffered + chunk.length
    · rw [push_of_lt full]
      exact ⟨bounded_reset r, rfl, rfl⟩
    · rw [push_of_le (Nat.not_lt.mp full)]
      exact ⟨bounded.extend (Nat.not_lt.mp full), rfl, rfl⟩
  | nextFrame =>
    rw [call_nextFrame]
    exact ⟨kept, limit, travels⟩
  | nextPacket =>
    rw [call_nextPacket, nextPacket_eq]
    exact ⟨kept, limit, travels⟩
  | finish =>
    rw [call_finish]
    rcases r.finish_cases with finish | finish <;> rw [finish]
    · exact ⟨bounded, rfl, rfl⟩
    · exact ⟨bounded_reset r, rfl, rfl⟩
  | reset => exact ⟨bounded_reset r, rfl, rfl⟩

/-- What a call takes off, with what it brings: the bytes before it and after it
balance. This is one line of the ledger, and the case split is over the calls
and their answers. -/
theorem Bounded.removal (bounded : r.Bounded) (call : Call) :
    ∃ piece, Removal r.direction r.splitter.buffer call (r.call call).1 piece ∧
      r.splitter.buffer ++ received call (r.call call).1 =
        piece ++ (r.call call).2.splitter.buffer := by
  cases call with
  | push chunk =>
    rw [call_push]
    by_cases full : r.limit < r.buffered + chunk.length
    · rw [push_of_lt full]
      exact ⟨r.splitter.buffer, .overflow, rfl⟩
    · rw [push_of_le (Nat.not_lt.mp full)]
      exact ⟨[], .nothing nofun rfl, rfl⟩
  | nextFrame =>
    rw [call_nextFrame, received_of_chunk rfl, List.append_nil]
    rcases bounded.nextFrame_cases with ⟨answer, same⟩ | ⟨frame, whole, answer, front⟩ |
      ⟨answer, empty⟩ <;> rw [answer]
    · exact ⟨[], .nothing nofun rfl, same.symm⟩
    · exact ⟨frame, .frame whole, front⟩
    · exact ⟨r.splitter.buffer, .unknownFrame, by rw [empty, List.append_nil]⟩
  | nextPacket =>
    rw [call_nextPacket, nextPacket_eq, received_of_chunk rfl, List.append_nil]
    rcases bounded.nextFrame_cases with ⟨answer, same⟩ | ⟨frame, whole, answer, front⟩ |
      ⟨answer, empty⟩ <;> rw [answer]
    · exact ⟨[], .nothing nofun rfl, same.symm⟩
    · have travels : r.nextFrame.2.direction = r.direction := bounded.coherent.next.1
      refine ⟨frame, ?_, front⟩
      simp only [travels]
      cases decoded : Frame.decode r.direction frame with
      | ok packet => exact .packet whole decoded
      | error error => exact .damaged whole decoded
    · exact ⟨r.splitter.buffer, .unknownPacket, by rw [empty, List.append_nil]⟩
  | finish =>
    rw [call_finish, received_of_chunk rfl, List.append_nil]
    rcases r.finish_cases with finish | finish <;> rw [finish]
    · exact ⟨[], .nothing nofun rfl, rfl⟩
    · exact ⟨r.splitter.buffer, .truncated, (List.append_nil _).symm⟩
  | reset => exact ⟨r.splitter.buffer, .reset, rfl⟩

/-! ## A run -/

/-- The bytes that the calls of a run brought and that were taken in, in order. -/
def receivedAll (calls : List Call) (answers : List Answer) : Bytes :=
  (List.zipWith received calls answers).flatten

/-- The pieces that the calls of a run take off, one for each call. Every line balances. -/
inductive Ledger : Reassembler → List Call → List Bytes → Prop where
  | nil (r : Reassembler) : Ledger r [] []
  | cons {r : Reassembler} {call : Call} {calls : List Call} {piece : Bytes} {pieces : List Bytes}
      (removal : Removal r.direction r.splitter.buffer call (r.call call).1 piece)
      (balance : r.splitter.buffer ++ received call (r.call call).1 =
        piece ++ (r.call call).2.splitter.buffer)
      (rest : Ledger (r.call call).2 calls pieces) : Ledger r (call :: calls) (piece :: pieces)

/-- A run keeps the invariant, the limit and the direction, since each of its
calls does. -/
theorem Bounded.run (bounded : r.Bounded) (calls : List Call) :
    (r.run calls).2.Bounded ∧ (r.run calls).2.limit = r.limit ∧
      (r.run calls).2.direction = r.direction := by
  have each (s : Reassembler) (call : Call)
      (held : s.Bounded ∧ s.limit = r.limit ∧ s.direction = r.direction) :
      (s.call call).2.Bounded ∧ (s.call call).2.limit = r.limit ∧
        (s.call call).2.direction = r.direction := by
    obtain ⟨kept, limit, travels⟩ := held.1.call call
    exact ⟨kept, limit.trans held.2.1, travels.trans held.2.2⟩
  exact converse_keeps each ⟨bounded, rfl, rfl⟩ calls

/-- Every run has a ledger: each call adds its line, and leaves a bounded
reassembler for the next one. -/
theorem Bounded.ledger (bounded : r.Bounded) (calls : List Call) :
    ∃ pieces, r.Ledger calls pieces := by
  induction calls generalizing r with
  | nil => exact ⟨[], .nil r⟩
  | cons call calls ih =>
    obtain ⟨piece, removal, balance⟩ := bounded.removal call
    obtain ⟨pieces, rest⟩ := ih (bounded.call call).1
    exact ⟨piece :: pieces, .cons removal balance rest⟩

/-- What a first call has brought comes before what the others bring. -/
theorem receivedAll_cons (call : Call) (calls : List Call) (answer : Answer)
    (answers : List Answer) :
    receivedAll (call :: calls) (answer :: answers) =
      received call answer ++ receivedAll calls answers := rfl

/-- What was at hand and what was taken in was taken off or is at hand, in
order. The induction is on the ledger, and each step is the balance of one line. -/
theorem Ledger.balance {calls : List Call} {pieces : List Bytes} (ledger : r.Ledger calls pieces) :
    r.splitter.buffer ++ receivedAll calls (r.run calls).1 =
      pieces.flatten ++ (r.run calls).2.splitter.buffer := by
  unfold run
  induction ledger with
  | nil r => exact List.append_nil _
  | cons _ balance _ ih =>
    rw [converse_cons, receivedAll_cons, ← List.append_assoc, balance, List.append_assoc, ih,
      List.flatten_cons, List.append_assoc]

/-- A packet was decoded from the piece that its call took off, which had arrived behind the pieces
before. -/
theorem Ledger.packet {calls : List Call} {pieces : List Bytes} (ledger : r.Ledger calls pieces)
    (bounded : r.Bounded) {i : Nat} {packet : Packet}
    (answer : (r.run calls).1[i]? = some (.packet (.ok (some packet)))) :
    ∃ frame later, pieces[i]? = some frame ∧ Frame.decode r.direction frame = .ok packet ∧
      r.splitter.buffer ++ receivedAll (calls.take i) ((r.run calls).1.take i) =
        (pieces.take i).flatten ++ frame ++ later := by
  unfold run at answer ⊢
  induction ledger generalizing i with
  | nil r => cases answer
  | @cons r call calls piece pieces removal balance _ ih =>
    rw [converse_cons] at answer ⊢
    cases i with
    | zero =>
      -- An answer with a packet has one ground for its piece: the frame that was decoded.
      have first : (r.call call).1 = .packet (.ok (some packet)) := Option.some.inj answer
      rw [first] at removal balance
      refine ⟨piece, (r.call call).2.splitter.buffer, rfl, ?_, balance⟩
      cases removal with
      | packet whole decoded => exact decoded
      | nothing kept quiet => cases quiet
    | succ i =>
      obtain ⟨kept, -, travels⟩ := bounded.call call
      obtain ⟨frame, later, taken, decoded, arrived⟩ := ih kept answer
      rw [travels] at decoded
      refine ⟨frame, later, taken, decoded, ?_⟩
      rw [List.take_succ_cons, List.take_succ_cons, List.take_succ_cons, receivedAll_cons,
        ← List.append_assoc, balance, List.append_assoc, arrived, List.flatten_cons,
        List.append_assoc, List.append_assoc, List.append_assoc]

/-- Whatever a reassembler is asked, the bytes at hand stay within its limit, which has room for the
longest frame, and a stage that names a layout names that of their type id. All bytes taken in are
the pieces taken off and then the bytes at hand, in order, and each packet was decoded from its
piece. -/
theorem run_ledger (direction : Direction) (settings : StreamSettings) (calls : List Call) :
    let first := new direction settings
    let answers := (first.run calls).1
    let last := (first.run calls).2
    last.buffered ≤ last.limit ∧
      last.limit = max settings.maxBuffered Layout.maxFrameLength ∧
      (∀ layout, last.stage = .awaitingBody layout → 3 ≤ last.buffered ∧
        Layout.lookup direction (Frame.typeId last.splitter.buffer) = .ok layout) ∧
      ∃ pieces, first.Ledger calls pieces ∧
        receivedAll calls answers = pieces.flatten ++ last.splitter.buffer ∧
        ∀ i packet, answers[i]? = some (.packet (.ok (some packet))) →
          ∃ frame later, pieces[i]? = some frame ∧ Frame.decode direction frame = .ok packet ∧
            receivedAll (calls.take i) (answers.take i) =
              (pieces.take i).flatten ++ frame ++ later := by
  intro first answers last
  have start : first.Bounded := ⟨Splitter.coherent_start direction, Nat.zero_le _⟩
  obtain ⟨bounded, limit, travels⟩ := start.run calls
  obtain ⟨pieces, ledger⟩ := start.ledger calls
  refine ⟨bounded.room, limit, ?_, pieces, ledger, ledger.balance, ?_⟩
  · intro layout body
    obtain ⟨probed, known⟩ := bounded.coherent layout body
    exact ⟨probed, (show last.splitter.direction = direction from travels) ▸ known⟩
  · intro i packet answer
    exact ledger.packet start answer

end MotionLink.Reassembler

import Mathlib
import MotionLink.Proofs.Stream.Ledger
import MotionLink.Stream.PacketBuffer

/-!
# A packet buffer and a reassembler are one machine

A reassembler can be asked whatever a packet buffer is asked
(`Reassembler.serve`): bytes and frames are pushed, and the end of the stream is
announced where no packet is left. Without its limit it is the buffer of the
bytes at hand (`Reassembler.contents`), and as long as no push overflows the two
give the same answers and stay the same. One call keeps them so
(`call_contents`), in whatever state errors and ends of the stream have left
them, and so does a run (`run_contents`).
-/

namespace MotionLink

namespace PacketBuffer

/-- What a buffer may be asked. -/
inductive Call where
  | extend (bytes : Bytes)
  | decode
  | decodeEnd
  | encode (packet : Packet)
  deriving DecidableEq, Repr

/-- Asks a buffer, which answers in the words of a reassembler. -/
def call (b : PacketBuffer) : Call → Reassembler.Answer × PacketBuffer
  | .extend bytes => (.done (.ok ()), b.extend bytes)
  | .decode => let (result, b) := b.decode; (.packet result, b)
  | .decodeEnd => let (result, b) := b.decodeEnd; (.packet result, b)
  | .encode packet => let (result, b) := b.encode packet; (.done result, b)

/-- Asks a buffer one thing after the other. -/
def run (b : PacketBuffer) (calls : List Call) : List Reassembler.Answer × PacketBuffer :=
  converse call b calls

end PacketBuffer

namespace Reassembler

/-! ## A reassembler asked like a buffer -/

/-- Answers what a buffer may be asked. -/
def serve (r : Reassembler) : PacketBuffer.Call → Answer × Reassembler
  | .extend bytes => let (result, r) := r.push bytes; (.done result, r)
  | .decode => let (result, r) := r.nextPacket; (.packet result, r)
  | .decodeEnd =>
    match r.nextPacket with
    | (.ok none, r) => let (result, r) := r.finish; (.packet (result.map fun () => none), r)
    | (result, r) => (.packet result, r)
  | .encode packet =>
    match Frame.encode packet with
    | .ok frame => let (result, r) := r.push frame; (.done result, r)
    | .error error => (.done (.error error), r)

/-- Answers one thing after the other that a buffer may be asked. -/
def serveAll (r : Reassembler) (calls : List PacketBuffer.Call) : List Answer × Reassembler :=
  converse serve r calls

/-- The buffer of the bytes at hand. -/
def contents (r : Reassembler) : PacketBuffer := ⟨r.splitter⟩

variable {r : Reassembler}

/-! ## One call -/

/-- A packet is taken off the same bytes, and made of the same frame. Both
search with the same splitter, and differ in what they keep beside it. -/
theorem decode_contents (bounded : r.Bounded) :
    r.contents.decode = (r.nextPacket.1, r.nextPacket.2.contents) := by
  have travels := bounded.coherent.next.1
  unfold PacketBuffer.decode nextPacket nextFrame contents
  cases step : r.splitter.next with
  | mk found rest =>
    rw [step] at travels
    cases found with
    | error error => rfl
    | ok frame? =>
      cases frame? with
      | none => rfl
      | some frame =>
        show (some <$> Frame.decode r.splitter.direction frame, _) =
          (some <$> Frame.decode rest.direction frame, _)
        rw [travels]

/-- The end of the stream cuts off the same bytes, and is announced under the
same condition: that no packet is left to be taken. -/
theorem decodeEnd_contents (bounded : r.Bounded) :
    r.contents.call .decodeEnd = ((r.serve .decodeEnd).1, (r.serve .decodeEnd).2.contents) := by
  simp only [PacketBuffer.call, PacketBuffer.decodeEnd, decode_contents bounded, serve]
  cases r.nextPacket with
  | mk result held =>
    cases result with
    | error error => rfl
    | ok packet? =>
      cases packet? with
      | some packet => rfl
      | none =>
        have same : held.contents.bytes = held.splitter.buffer := rfl
        simp only [same, finish]
        cases held.splitter.buffer with
        | nil => rfl
        | cons byte bytes => rfl

/-- A chunk for which there is room is put behind the bytes at hand. -/
theorem extend_contents {chunk : Bytes}
    (room : (Answer.done (r.push chunk).1).overflows = false) :
    (r.push chunk).1 = .ok () ∧ (r.push chunk).2.contents = r.contents.extend chunk := by
  by_cases full : r.limit < r.buffered + chunk.length
  · rw [push_of_lt full] at room
    cases room
  · rw [push_of_le (Nat.not_lt.mp full)]
    exact ⟨rfl, rfl⟩

/-- One call is answered alike and leaves the same bytes, unless there is no
room for what it brings. The buffer has no limit, so this is the one thing that
tells the two apart. -/
theorem call_contents (bounded : r.Bounded) {call : PacketBuffer.Call}
    (room : (r.serve call).1.overflows = false) :
    r.contents.call call = ((r.serve call).1, (r.serve call).2.contents) := by
  cases call with
  | extend bytes =>
    obtain ⟨taken, same⟩ := extend_contents room
    simp only [PacketBuffer.call, serve, taken, same]
  | decode => simp only [PacketBuffer.call, serve, decode_contents bounded]
  | decodeEnd => exact decodeEnd_contents bounded
  | encode packet =>
    simp only [PacketBuffer.call, PacketBuffer.encode, Frame.append, serve] at room ⊢
    cases encoded : Frame.encode packet with
    | error error => rfl
    | ok frame =>
      simp only [encoded] at room
      obtain ⟨taken, same⟩ := extend_contents room
      simp only [taken, same]
      rfl

/-- An answer leaves a bounded reassembler, whether there was room or not. -/
theorem Bounded.serve (bounded : r.Bounded) (call : PacketBuffer.Call) :
    (r.serve call).2.Bounded := by
  cases call with
  | extend bytes => exact (bounded.call (.push bytes)).1
  | decode => exact (bounded.call .nextPacket).1
  | decodeEnd =>
    have kept : r.nextPacket.2.Bounded := (bounded.call .nextPacket).1
    simp only [Reassembler.serve]
    split
    · rename_i held answer
      rw [answer] at kept
      exact (kept.call .finish).1
    · rename_i result held _ answer
      rw [answer] at kept
      exact kept
  | encode packet =>
    simp only [Reassembler.serve]
    split
    · rename_i frame _
      exact (bounded.call (.push frame)).1
    · exact bounded

/-! ## A run -/

theorem Bounded.serveAll (bounded : r.Bounded) (calls : List PacketBuffer.Call) :
    (r.serveAll calls).2.Bounded := by
  have each (s : Reassembler) (call : PacketBuffer.Call) (held : s.Bounded) :
      (s.serve call).2.Bounded := held.serve call
  exact converse_keeps each bounded calls

/-- A run is answered alike and leaves the same bytes, so long as there is room.
The induction is on the calls, with one call for the step. -/
theorem run_contents (bounded : r.Bounded) {calls : List PacketBuffer.Call}
    (room : ∀ answer ∈ (r.serveAll calls).1, answer.overflows = false) :
    r.contents.run calls = ((r.serveAll calls).1, (r.serveAll calls).2.contents) := by
  unfold PacketBuffer.run Reassembler.serveAll at *
  induction calls generalizing r with
  | nil => rfl
  | cons call calls ih =>
    rw [converse_cons] at room
    have first := call_contents bounded (room _ List.mem_cons_self)
    have rest := ih (bounded.serve call) fun answer later =>
      room answer (List.mem_cons_of_mem _ later)
    rw [converse_cons, first, rest, converse_cons]

/-- Asked the same, an empty buffer and a new reassembler give the same answers and are left in the
same stage before the same bytes, so long as no push overflows. Neither has a layout in mind when no
byte is at hand. -/
theorem run_lockstep {direction : Direction} {settings : StreamSettings}
    {calls : List PacketBuffer.Call}
    (room : ∀ answer ∈ ((new direction settings).serveAll calls).1, answer.overflows = false) :
    let buffer := (PacketBuffer.empty direction).run calls
    let reassembler := (new direction settings).serveAll calls
    buffer.1 = reassembler.1 ∧
      buffer.2.splitter.stage = reassembler.2.stage ∧
      buffer.2.bytes = reassembler.2.splitter.buffer ∧
      buffer.2.splitter.direction = reassembler.2.direction ∧
      (buffer.2.bytes = [] → buffer.2.splitter.stage = .awaitingHeader) := by
  intro buffer reassembler
  have start : (new direction settings).Bounded :=
    ⟨Splitter.coherent_start direction, Nat.zero_le _⟩
  have same : buffer = (reassembler.1, reassembler.2.contents) := run_contents start room
  have kept : reassembler.2.Bounded := start.serveAll calls
  rw [same]
  refine ⟨rfl, rfl, rfl, rfl, ?_⟩
  intro empty
  cases stage : reassembler.2.splitter.stage with
  | awaitingHeader => exact stage
  | awaitingBody layout =>
    have probed := (kept.coherent layout stage).1
    rw [show reassembler.2.splitter.buffer = [] from empty] at probed
    cases probed

/-- A stream that ends inside a type id, then goes on with an intact stop, a damaged zero offset, a
stop put behind them, a zero offset for every board, which has no frame, a type that is not known,
and three bytes of the next frame. -/
theorem run_lockstep_mixed :
    let calls : List PacketBuffer.Call :=
      [.extend [85], .decodeEnd, .extend [85, 170, 2, 2, 1, 151, 189, 85, 170, 9, 2, 57, 0],
        .decode, .decode, .encode (.command ⟨⟨255⟩, .emergencyStop 1⟩),
        .encode (.command ⟨⟨255⟩, .setZeroOffset⟩), .decodeEnd, .decodeEnd,
        .extend [85, 170, 77, 1], .decode, .extend [85, 170, 9], .decode, .decodeEnd, .decode]
    (∀ answer ∈ ((new .masterToBoard ⟨1024, 0⟩).serveAll calls).1, answer.overflows = false) ∧
      let buffer := (PacketBuffer.empty .masterToBoard).run calls
      let reassembler := (new .masterToBoard ⟨1024, 0⟩).serveAll calls
      buffer.1 = reassembler.1 ∧
        buffer.2.splitter.stage = reassembler.2.stage ∧
        buffer.2.bytes = reassembler.2.splitter.buffer ∧
        buffer.2.splitter.direction = reassembler.2.direction ∧
        (buffer.2.bytes = [] → buffer.2.splitter.stage = .awaitingHeader) := by
  intro calls
  have room : ∀ answer ∈ ((new .masterToBoard ⟨1024, 0⟩).serveAll calls).1,
      answer.overflows = false := by decide +kernel
  exact ⟨room, run_lockstep room⟩

end Reassembler

end MotionLink

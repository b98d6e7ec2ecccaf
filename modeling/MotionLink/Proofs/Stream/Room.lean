import Mathlib
import MotionLink.Proofs.Frame.Errors
import MotionLink.Proofs.Stream.Reads
import MotionLink.Proofs.Stream.Splitting
import MotionLink.Proofs.Stream.Turns

/-!
# A reader has room for what it reads

A reader asks for bytes only when no whole frame is at hand, and then fewer
bytes are at hand than the longest frame has (`IsTail.length_lt`). The chunk it
asks for was chosen so that both together stay within the limit of its
reassembler, also where the limit leaves no room besides one frame and a single
byte is asked for. `FrameReader.Fits` is the invariant; a turn keeps it
(`Fits.turn`), and so does a call.
-/

namespace MotionLink

/-- A tail is shorter than the longest frame. -/
theorem IsTail.length_lt {direction : Direction} {tail : Bytes} (cut : IsTail direction tail) :
    tail.length < Layout.maxFrameLength := by
  rcases cut with short | ⟨layout, known, short⟩
  · rw [Layout.maxFrameLength_eq]
    omega
  · have most := (Layout.frameLength_bounds (Layout.lookup_eq_ok known).1).2
    omega

/-! ## A bounded reassembler -/

namespace Reassembler

/-- The bytes at hand agree with the stage and are within the limit. -/
structure Bounded (r : Reassembler) : Prop where
  coherent : r.splitter.Coherent
  room : r.buffered ≤ r.limit

theorem bounded_reset (r : Reassembler) : r.reset.Bounded :=
  ⟨Splitter.coherent_start _, Nat.zero_le _⟩

variable {r : Reassembler}

/-- The search for a frame ends in one of three ways: before a tail, which stays; with a whole
frame, which is taken off; or at an unknown type, with all bytes. -/
theorem Bounded.nextFrame_outcome (bounded : r.Bounded) :
    (IsTail r.direction r.splitter.buffer ∧
      r.nextFrame = (.ok none, ⟨r.limit, r.splitter.settled⟩)) ∨
    (∃ frame more, IsBlock r.direction frame ∧ r.splitter.buffer = frame ++ more ∧
      r.nextFrame = (.ok (some frame), ⟨r.limit, ⟨r.direction, .awaitingHeader, more⟩⟩)) ∨
    r.nextFrame =
      (.error (.unknownPacketType r.direction (Frame.typeId r.splitter.buffer)), r.reset) := by
  rcases front_cases r.splitter.direction r.splitter.buffer with cut | ⟨frame, more, whole, front⟩ |
    ⟨probed, error, unknown⟩
  · rw [Reassembler.nextFrame, Splitter.next_of_tail bounded.coherent cut]
    exact .inl ⟨cut, rfl⟩
  · rw [Reassembler.nextFrame, Splitter.next_of_block bounded.coherent whole front]
    exact .inr (.inl ⟨frame, more, whole, front, rfl⟩)
  · rw [Reassembler.nextFrame, Splitter.next_of_unknown bounded.coherent probed unknown,
      Layout.lookup_eq_error unknown]
    exact .inr (.inr rfl)

/-- The search for a frame leaves no more bytes at hand. Without a frame these are fewer than the
longest frame has, and its refusals are not those of a stream. -/
theorem Bounded.nextFrame (bounded : r.Bounded) :
    r.nextFrame.2.Bounded ∧ r.nextFrame.2.limit = r.limit ∧
      (r.nextFrame.1 = .ok none → r.nextFrame.2.buffered < Layout.maxFrameLength) ∧
      ∀ error, r.nextFrame.1 = .error error → error.ofStream = false := by
  rcases bounded.nextFrame_outcome with ⟨cut, step⟩ | ⟨frame, more, whole, front, step⟩ | step <;>
    rw [step]
  · exact ⟨⟨Splitter.coherent_settled _, bounded.room⟩, rfl, fun _ => cut.length_lt, nofun⟩
  · have room := bounded.room
    rw [buffered, front, List.length_append] at room
    exact ⟨⟨Splitter.coherent_of_header rfl, Nat.le_trans (Nat.le_add_left ..) room⟩, rfl, nofun,
      nofun⟩
  · refine ⟨bounded_reset r, rfl, nofun, ?_⟩
    rintro refused ⟨⟩
    rfl

/-- A chunk that fits in is taken in. -/
theorem push_of_le {chunk : Bytes} (room : r.buffered + chunk.length ≤ r.limit) :
    r.push chunk = (.ok (), { r with splitter := r.splitter.extend chunk }) := by
  simp only [push, Nat.not_lt.mpr room, if_false]

/-- A chunk for which there is room keeps a reassembler bounded. It only adds
bytes behind those that the stage was settled by. -/
theorem Bounded.extend {chunk : Bytes} (bounded : r.Bounded)
    (room : r.buffered + chunk.length ≤ r.limit) :
    Bounded { r with splitter := r.splitter.extend chunk } where
  coherent := bounded.coherent.extend chunk
  room := by
    rw [buffered, Splitter.extend, List.length_append]
    exact room

/-- The end of a stream is refused only as one that cuts off a frame. -/
theorem finish_cases (r : Reassembler) :
    r.finish = (.ok (), r) ∨ r.finish = (.error r.splitter.truncation, r.reset) := by
  unfold finish
  split
  · exact .inl rfl
  · exact .inr rfl

/-- An arrival for which there is room is taken in, and nothing else that may
arrive makes a reassembler overflow. -/
theorem Bounded.arrive {arrival : Except IoFailure Bytes} (bounded : r.Bounded)
    (room : ∀ bytes, arrival = .ok bytes → r.buffered + bytes.length ≤ r.limit) :
    (r.arrive arrival).2.Bounded ∧ (r.arrive arrival).2.limit = r.limit ∧
      ∀ size max, (r.arrive arrival).1 ≠ some (.bufferOverflow size max) := by
  cases arrival with
  | error failure =>
    refine ⟨bounded, rfl, fun size max overflow => ?_⟩
    rw [Reassembler.arrive] at overflow
    split at overflow <;> cases overflow
  | ok bytes =>
    cases bytes with
    | nil =>
      rcases r.finish_cases with finish | finish
      · rw [Reassembler.arrive, finish]
        refine ⟨bounded, rfl, fun size max overflow => ?_⟩
        cases overflow
      · rw [Reassembler.arrive, finish]
        refine ⟨bounded_reset r, rfl, fun size max overflow => ?_⟩
        cases overflow
    | cons byte bytes =>
      rw [Reassembler.arrive, push_of_le (room _ rfl)]
      refine ⟨bounded.extend (room _ rfl), rfl, fun size max overflow => ?_⟩
      cases overflow

end Reassembler

namespace FrameReader

/-! ## The invariant -/

/-- A reader with these settings: its reassembler is bounded by the limit, and it has only ever
asked for its chunk. -/
structure Fits (settings : StreamSettings) (r : FrameReader) : Prop where
  limit : r.reassembler.limit = max settings.maxBuffered Layout.maxFrameLength
  chunk : r.chunk = max 1 (min settings.readChunk (r.reassembler.limit - Layout.maxFrameLength))
  bounded : r.reassembler.Bounded
  asked : ∀ wanted ∈ r.source.requests, wanted = r.chunk

theorem fits_new (direction : Direction) (settings : StreamSettings) (events : List ReadEvent) :
    (new direction settings events).Fits settings where
  limit := rfl
  chunk := rfl
  bounded := ⟨Splitter.coherent_start direction, Nat.zero_le _⟩
  asked := nofun

variable {settings : StreamSettings} {r : FrameReader}

/-- A reader that finds no frame has room for a chunk, be it that of a single
byte. Fewer bytes are at hand than the longest frame has, so at the tightest
limit there is one byte to spare. -/
theorem Fits.room (fits : r.Fits settings) {held : Reassembler}
    (limit : held.limit = r.reassembler.limit) (short : held.buffered < Layout.maxFrameLength)
    {bytes : Bytes} (few : bytes.length ≤ r.chunk) :
    held.buffered + bytes.length ≤ held.limit := by
  have least : Layout.maxFrameLength ≤ r.reassembler.limit := by
    rw [fits.limit]
    exact Nat.le_max_right ..
  have chunk := fits.chunk
  omega

/-- Behind a tail a reader takes in what it has read. No chunk that it asked for
is refused, so bytes that arrive are never an answer. -/
theorem Fits.arrive_chunk (fits : r.Fits settings)
    (cut : IsTail r.direction r.reassembler.splitter.buffer) {byte : UInt8} {bytes : Bytes}
    (arrival : (r.source.read r.chunk).1 = .ok (byte :: bytes)) :
    Reassembler.arrive ⟨r.reassembler.limit, r.reassembler.splitter.settled⟩
        (.ok (byte :: bytes)) =
      (none, ⟨r.reassembler.limit, r.reassembler.splitter.settled.extend (byte :: bytes)⟩) := by
  have room : Reassembler.buffered ⟨r.reassembler.limit, r.reassembler.splitter.settled⟩ +
      (byte :: bytes).length ≤ r.reassembler.limit :=
    fits.room rfl cut.length_lt (Source.length_read_le arrival)
  rw [Reassembler.arrive, Reassembler.push_of_le room]

/-- A turn keeps the invariant and does not overflow: it reads only where there
is no frame, and there it has room for what it asks for. -/
theorem Fits.turn (fits : r.Fits settings) :
    r.turn.2.Fits settings ∧
      ∀ size max, r.turn.1 ≠ some (.error (.bufferOverflow size max)) := by
  obtain ⟨bounded, limit, short, refusals⟩ := fits.bounded.nextFrame
  cases next : r.reassembler.nextFrame with
  | mk answer held =>
    simp only [next] at bounded limit short refusals
    have step : Fits settings { r with reassembler := held } :=
      ⟨limit.trans fits.limit, limit ▸ fits.chunk, bounded, fits.asked⟩
    cases answer with
    | error error =>
      rw [turn_of_error next]
      refine ⟨step, fun size max overflow => ?_⟩
      cases overflow
      cases refusals _ rfl
    | ok frame? =>
      cases frame? with
      | some frame =>
        rw [turn_of_frame next]
        exact ⟨step, fun _ _ => nofun⟩
      | none =>
        -- The one case that reads; there is room because so little is at hand without a frame.
        obtain ⟨bounded', limit', overflow⟩ := bounded.arrive fun bytes arrived =>
          fits.room limit (short rfl) (Source.length_read_le arrived)
        rw [turn_of_none next]
        refine ⟨⟨limit'.trans step.limit, limit'.symm ▸ step.chunk, bounded', ?_⟩, ?_⟩
        · intro wanted mem
          simp only [Source.requests_read] at mem
          rcases List.mem_cons.mp mem with rfl | earlier
          · rfl
          · exact fits.asked wanted earlier
        · intro size max answer
          obtain ⟨error, refused, same⟩ := Option.map_eq_some_iff.mp answer
          cases same
          exact overflow size max refused

/-- A call keeps the invariant and does not overflow, since its turns do not. -/
theorem Fits.readFrame (fits : r.Fits settings) :
    (∀ size max, r.readFrame.1 ≠ .error (.bufferOverflow size max)) ∧
      r.readFrame.2.Fits settings := by
  refine readFrame_rule (Fits settings) (fun answer r =>
    (∀ size max, answer ≠ .error (.bufferOverflow size max)) ∧ r.Fits settings) ?_ ?_ fits
  · intro r r' fits step
    have kept := fits.turn.1
    rw [step] at kept
    exact kept
  · intro r r' answer fits step
    obtain ⟨kept, overflow⟩ := fits.turn
    rw [step] at kept overflow
    exact ⟨fun size max same => overflow size max (congrArg some same), kept⟩

/-- Whatever is made of a frame adds no overflow, so the same is true of all
four calls. -/
theorem Fits.call (fits : r.Fits settings) (call : Call) :
    (∀ size max, (r.call call).1.error? ≠ some (.bufferOverflow size max)) ∧
      (r.call call).2.Fits settings := by
  obtain ⟨overflow, kept⟩ := fits.readFrame
  rw [call_eq]
  refine ⟨fun size max failed => ?_, kept⟩
  rcases Call.error?_answer failed with refused | ofFrame
  · exact overflow size max refused
  · cases ofFrame

/-! ## Whatever becomes of a reader -/

/-- The same reader, with more events in store for its source. -/
def grow (r : FrameReader) (events : List ReadEvent) : FrameReader :=
  { r with source := { r.source with events := r.source.events ++ events } }

/-- The readers that a reader becomes, between its calls and in the midst of them, while its
source may get more in store. -/
inductive Becomes (r : FrameReader) : FrameReader → Prop where
  | start : Becomes r r
  | grow {r' : FrameReader} (events : List ReadEvent) : Becomes r r' → Becomes r (r'.grow events)
  | turn {r' : FrameReader} : Becomes r r' → Becomes r r'.turn.2
  | call {r' : FrameReader} (call : Call) : Becomes r r' → Becomes r (r'.call call).2

/-- Whatever becomes of a reader, it keeps the invariant. More events in its
store change nothing that the invariant speaks of. -/
theorem Fits.becomes {r' : FrameReader} (fits : r.Fits settings) (becomes : r.Becomes r') :
    r'.Fits settings := by
  induction becomes with
  | start => exact fits
  | grow events _ kept => exact ⟨kept.limit, kept.chunk, kept.bounded, kept.asked⟩
  | turn _ kept => exact kept.turn.1
  | call call _ kept => exact (kept.call call).2

theorem Fits.run (fits : r.Fits settings) (calls : List Call) :
    ∀ answer ∈ (r.run calls).1, ∀ size max, answer.error? ≠ some (.bufferOverflow size max) := by
  have each (s : FrameReader) (call : Call) (kept : s.Fits settings) := kept.call call
  exact (converse_rule _ each fits calls).1

/-- A reader never overflows, whatever its settings, whatever its source has in store or gets later
and whatever it is asked. Its limit has room for the longest frame, the bytes at hand stay within
it during every call, and it never asks for nothing, so that a read that gives nothing has come to
the end of the stream. -/
theorem never_overflows {direction : Direction} {settings : StreamSettings}
    {events : List ReadEvent} {r : FrameReader}
    (reached : (new direction settings events).Becomes r) :
    (∀ calls, ∀ answer ∈ (r.run calls).1, ∀ size max,
      answer.error? ≠ some (.bufferOverflow size max)) ∧
    Layout.maxFrameLength ≤ r.reassembler.limit ∧
    r.reassembler.buffered ≤ max settings.maxBuffered Layout.maxFrameLength ∧
    (∀ wanted ∈ r.source.requests, 1 ≤ wanted) ∧
    ((r.source.read r.chunk).1 = .ok [] →
      r.source.events = [] ∨ ∃ later, r.source.events = .data [] :: later) := by
  have fits := (fits_new direction settings events).becomes reached
  refine ⟨fits.run, ?_, ?_, ?_, Source.ended_of_read r.chunk_pos⟩
  · rw [fits.limit]
    exact Nat.le_max_right ..
  · rw [← fits.limit]
    exact fits.bounded.room
  · intro wanted mem
    rw [fits.asked wanted mem]
    exact r.chunk_pos

/-- The limit leaves room for one frame only, so bytes are asked for one by one. The stream goes on
with a type that is not known. -/
theorem never_overflows_tight :
    let r := ((new .masterToBoard ⟨1024, 0⟩ [.data [85, 170, 77, 1]]).turn.2.grow
      [.failure ⟨.interrupted, none⟩, .data [0]]).turn.2
    r.reassembler.buffered = 2 ∧ r.source.requests = [1, 1] ∧
      r.reassembler.buffered ≤ max 0 Layout.maxFrameLength ∧
      (∀ wanted ∈ r.source.requests, 1 ≤ wanted) ∧
      ∀ answer ∈ (r.run [.frame, .packet, .frame]).1, ∀ size max,
        answer.error? ≠ some (.bufferOverflow size max) := by
  intro r
  have reached : (new .masterToBoard ⟨1024, 0⟩ [.data [85, 170, 77, 1]]).Becomes r :=
    .turn (.grow _ (.turn .start))
  obtain ⟨calm, -, room, asked, -⟩ := never_overflows reached
  exact ⟨by decide +kernel, by decide +kernel, room, asked, calm _⟩

end FrameReader

end MotionLink

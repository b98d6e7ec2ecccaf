import Mathlib
import MotionLink.Proofs.Frame.Errors
import MotionLink.Proofs.Stream.Ledger

/-!
# What a refusal costs

A reassembler that refuses something has either forgotten all of its stream or
lost one frame. Where it has forgotten all, it is the reassembler it was at the
start: an overflow and an unknown type leave no bytes and no layout, and so does
the end of a stream between two frames, which resets nothing, because the stage
of a splitter without bytes is that of the start (`Splitter.Coherent.eq_start`).
Where a frame was not intact (`FrameError.Damage`), that frame is gone and the
search for the next one begins with the bytes behind it.

Both are read off what the calls do to a bounded reassembler
(`Bounded.nextFrame_outcome`, `Bounded.nextPacket_outcome`,
`Bounded.finish_reset`), and every run leaves a bounded one.
-/

namespace MotionLink

/-! ## Damage -/

/-- What is wrong with a whole frame of a known type: its magic word, its checksum or a field. -/
inductive FrameError.Damage : FrameError → Prop where
  | magic (expected found : UInt16) : Damage (.badMagic expected found)
  | checksum (packet : PacketKind) (stored computed : UInt16) :
      Damage (.checksumMismatch packet stored computed)
  | field (packet : PacketKind) (field : String) (value : UInt8) :
      Damage (.malformedPacket packet field value)

namespace Frame

/-- Of a frame that has its length, a check refuses the magic word or the check
value. -/
theorem damage_of_check {layout : Layout} {frame : Bytes} {error : FrameError}
    (length : frame.length = layout.frameLength) (refused : check layout frame = .error error) :
    error.Damage := by
  simp only [check, length, ne_eq, not_true_eq_false, if_false] at refused
  split at refused
  · cases refused
    exact .magic ..
  · split at refused
    · cases refused
      exact .checksum ..
    · cases refused

/-- What a row of the table refuses is a byte outside its domain. -/
theorem damage_of_answer {format : Format} {frame : Bytes} {error : FrameError}
    (refused : format.answer frame = .error error) : error.Damage := by
  unfold Format.answer at refused
  split at refused
  · cases refused
    exact .field ..
  · cases refused

/-- A whole frame of a known type is refused for damage only: it has the length
of its type, so neither the length nor the type is at fault. -/
theorem damage_of_decode {direction : Direction} {block : Bytes} {error : FrameError}
    (whole : IsBlock direction block) (refused : decode direction block = .error error) :
    error.Damage := by
  obtain ⟨long, layout, known, length⟩ := whole
  have probed : ¬ block.length < probeLength := Nat.not_lt.mpr long
  rw [decode, if_neg probed, known, Refusal.ok_bind] at refused
  obtain failed | ⟨_, passed, refused⟩ := Refusal.bind_eq_error.mp refused
  · exact damage_of_check length failed
  · obtain ⟨format, same⟩ := read_eq_answer known passed
    rw [same] at refused
    exact damage_of_answer refused

end Frame

/-- Without bytes at hand, a splitter is as it was at the start. -/
theorem Splitter.Coherent.eq_start {s : Splitter} (coherent : s.Coherent) (empty : s.buffer = []) :
    s = start s.direction := by
  cases stage : s.stage with
  | awaitingHeader => rw [start, ← stage, ← empty]
  | awaitingBody layout =>
    have probed := (coherent layout stage).1
    rw [empty] at probed
    cases probed

namespace Reassembler

/-! ## What a call leaves -/

variable {r : Reassembler}

/-- A chunk is refused exactly where it does not fit in, and all bytes with it. -/
theorem push_eq_error_iff {chunk : Bytes} {error : FrameError} :
    (r.push chunk).1 = .error error ↔ r.limit < r.buffered + chunk.length ∧
      error = .bufferOverflow (r.buffered + chunk.length) r.limit := by
  by_cases full : r.limit < r.buffered + chunk.length
  · rw [push_of_lt full, Except.error.injEq, and_iff_right full, eq_comm]
  · rw [push_of_le (Nat.not_lt.mp full)]
    exact iff_of_false nofun fun overflow => full overflow.1

/-- A chunk that is refused leaves nothing, not even what was at hand before it. -/
theorem push_reset {chunk : Bytes} {error : FrameError}
    (refused : (r.push chunk).1 = .error error) : (r.push chunk).2 = r.reset := by
  rw [push_of_lt (push_eq_error_iff.mp refused).1]

/-- What is made of a whole frame makes no difference to what is left. The three
cases are those of the search for a frame. -/
theorem Bounded.nextPacket_outcome (bounded : r.Bounded) :
    (IsTail r.direction r.splitter.buffer ∧
      r.nextPacket = (.ok none, ⟨r.limit, r.splitter.settled⟩)) ∨
    (∃ frame more, IsBlock r.direction frame ∧ r.splitter.buffer = frame ++ more ∧
      r.nextPacket = (some <$> Frame.decode r.direction frame,
        ⟨r.limit, ⟨r.direction, .awaitingHeader, more⟩⟩)) ∨
    r.nextPacket =
      (.error (.unknownPacketType r.direction (Frame.typeId r.splitter.buffer)), r.reset) := by
  rw [nextPacket_eq]
  rcases bounded.nextFrame_outcome with ⟨cut, step⟩ | ⟨frame, more, whole, front, step⟩ | step <;>
    rw [step]
  · exact .inl ⟨cut, rfl⟩
  · exact .inr (.inl ⟨frame, more, whole, front, rfl⟩)
  · exact .inr (.inr rfl)

/-- A packet is refused for an unknown type, which costs all bytes, or for the damage of a whole
frame, which costs that frame. -/
theorem Bounded.nextPacket_error (bounded : r.Bounded) {error : FrameError}
    (refused : r.nextPacket.1 = .error error) :
    (error = .unknownPacketType r.direction (Frame.typeId r.splitter.buffer) ∧
      r.nextPacket.2 = r.reset) ∨
    (error.Damage ∧ ∃ frame more, IsBlock r.direction frame ∧
      r.splitter.buffer = frame ++ more ∧
      r.nextPacket.2 = ⟨r.limit, ⟨r.direction, .awaitingHeader, more⟩⟩) := by
  rcases bounded.nextPacket_outcome with ⟨-, step⟩ | ⟨frame, more, whole, front, step⟩ | step <;>
    rw [step] at refused ⊢
  · cases refused
  · have damage := Frame.damage_of_decode whole (Refusal.map_eq_error.mp refused)
    exact .inr ⟨damage, frame, more, whole, front, rfl⟩
  · cases refused
    exact .inl ⟨rfl, rfl⟩

/-- Damage costs as many bytes as the type at the front is long, and the search
goes on with the byte behind them. -/
theorem Bounded.damage_cost (bounded : r.Bounded) {error : FrameError}
    (refused : r.nextPacket.1 = .error error) (damage : error.Damage) :
    ∃ layout, Layout.lookup r.direction (Frame.typeId r.splitter.buffer) = .ok layout ∧
      layout.frameLength ≤ r.buffered ∧
      r.nextPacket.2 = ⟨r.limit,
        ⟨r.direction, .awaitingHeader, r.splitter.buffer.drop layout.frameLength⟩⟩ := by
  rcases bounded.nextPacket_error refused with ⟨rfl, -⟩ | ⟨-, frame, more, whole, front, left⟩
  · cases damage
  · obtain ⟨long, layout, known, length⟩ := whole
    refine ⟨layout, ?_, ?_, ?_⟩
    · rw [front, Frame.typeId_append long]
      exact known
    · rw [buffered, front, List.length_append, length]
      exact Nat.le_add_right ..
    · rw [left, front, ← length, List.drop_left]

/-- The search for a frame is refused for an unknown type only, which costs all bytes. -/
theorem Bounded.nextFrame_error (bounded : r.Bounded) {error : FrameError}
    (refused : r.nextFrame.1 = .error error) :
    error = .unknownPacketType r.direction (Frame.typeId r.splitter.buffer) ∧
      r.nextFrame.2 = r.reset := by
  rcases bounded.nextFrame_outcome with ⟨-, step⟩ | ⟨frame, more, -, -, step⟩ | step <;>
    rw [step] at refused ⊢ <;> cases refused
  exact ⟨rfl, rfl⟩

/-- The end of a stream leaves nothing, whether it was refused or not. Where it
was not refused no bytes were at hand, and the stage of a splitter without bytes
is that of the start. -/
theorem Bounded.finish_reset (bounded : r.Bounded) : r.finish.2 = r.reset := by
  unfold Reassembler.finish
  split
  · rename_i empty
    rw [reset, Splitter.reset, ← bounded.coherent.eq_start (List.isEmpty_iff.mp empty)]
  · rfl

/-- A reset leaves what a new reassembler with the same limit and direction holds. -/
theorem reset_eq_new {direction : Direction} {settings : StreamSettings}
    (limit : r.limit = max settings.maxBuffered Layout.maxFrameLength)
    (travels : r.direction = direction) : r.reset = new direction settings := by
  subst travels
  rw [reset, limit]
  rfl

/-- An answered call that leaves nothing of the stream. -/
inductive Forgets : Call → Answer → Prop where
  | overflow {chunk : Bytes} {error : FrameError} : Forgets (.push chunk) (.done (.error error))
  | unknownFrame {direction : Direction} {id : UInt8} :
      Forgets .nextFrame (.frame (.error (.unknownPacketType direction id)))
  | unknownPacket {direction : Direction} {id : UInt8} :
      Forgets .nextPacket (.packet (.error (.unknownPacketType direction id)))
  | finish {result : Except FrameError Unit} : Forgets .finish (.done result)
  | reset : Forgets .reset (.done (.ok ()))

/-- Whichever way the stream is forgotten, what is left is what a reset leaves. -/
theorem Bounded.forgets (bounded : r.Bounded) {call : Call} {answer : Answer}
    (answered : (r.call call).1 = answer) (forgets : Forgets call answer) :
    (r.call call).2 = r.reset := by
  cases forgets with
  | overflow => exact push_reset (Answer.done.inj answered)
  | unknownFrame => exact (bounded.nextFrame_error (Answer.frame.inj answered)).2
  | unknownPacket =>
    rcases bounded.nextPacket_error (Answer.packet.inj answered) with ⟨-, reset⟩ | ⟨damage, -⟩
    · exact reset
    · cases damage
  | finish => exact bounded.finish_reset
  | reset => rfl

/-- Whatever a reassembler was asked before, a refusal costs all of the stream or one frame. A chunk
is refused exactly where it does not fit in, a packet for an unknown type or for damage, a frame for
an unknown type. Behind an overflow, an unknown type, an end of the stream and a reset no run tells
the reassembler from a new one. Behind damage just the frame at the front is gone. -/
theorem refusal_cost (direction : Direction) (settings : StreamSettings) (calls : List Call) :
    let fresh := new direction settings
    let r := (fresh.run calls).2
    (fresh.limit = r.limit ∧ fresh.direction = r.direction) ∧
    (∀ chunk error, (r.push chunk).1 = .error error ↔ r.limit < r.buffered + chunk.length ∧
      error = .bufferOverflow (r.buffered + chunk.length) r.limit) ∧
    (∀ error, r.nextFrame.1 = .error error → ∃ id, error = .unknownPacketType direction id) ∧
    (∀ error, r.nextPacket.1 = .error error →
      (∃ id, error = .unknownPacketType direction id) ∨ error.Damage) ∧
    (∀ call, Forgets call (r.call call).1 →
      (r.call call).2 = fresh ∧ ∀ later, (r.call call).2.run later = fresh.run later) ∧
    ∀ error, r.nextPacket.1 = .error error → error.Damage →
      ∃ layout, Layout.lookup direction (Frame.typeId r.splitter.buffer) = .ok layout ∧
        layout.frameLength ≤ r.buffered ∧
        r.nextPacket.2 = ⟨r.limit,
          ⟨direction, .awaitingHeader, r.splitter.buffer.drop layout.frameLength⟩⟩ := by
  intro fresh r
  have start : fresh.Bounded := ⟨Splitter.coherent_start direction, Nat.zero_le _⟩
  obtain ⟨bounded, limit, travels⟩ := start.run calls
  have travels : r.direction = direction := travels
  -- A reset keeps the limit and the direction, and no run changes either.
  have anew : r.reset = fresh := reset_eq_new limit travels
  refine ⟨⟨limit.symm, travels.symm⟩, fun _ _ => push_eq_error_iff, ?_, ?_, ?_, ?_⟩
  · intro error refused
    exact ⟨_, travels ▸ (bounded.nextFrame_error refused).1⟩
  · intro error refused
    rcases bounded.nextPacket_error refused with ⟨unknown, -⟩ | ⟨damage, -⟩
    · exact .inl ⟨_, travels ▸ unknown⟩
    · exact .inr damage
  · intro call forgets
    have becomes : (r.call call).2 = fresh := (bounded.forgets rfl forgets).trans anew
    exact ⟨becomes, fun later => by rw [becomes]⟩
  · intro error refused damage
    exact travels ▸ bounded.damage_cost refused damage

end Reassembler

end MotionLink

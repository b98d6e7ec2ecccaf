import Mathlib
import MotionLink.Proofs.Frame.Exactness
import MotionLink.Proofs.Stream.Faults

/-!
# The two directions are kept apart

Type ids overlap between the directions, and a reader cuts its stream by the
registry of its own direction also where it is asked for packets of the other.
Nothing is confused by that: two registered layouts with one type id and one
length travel the same way (`Layout.travels_alike`), so the decoder of the other
direction refuses every block of a stream by its id or its length, before it
looks at the magic word and the checksum (`Frame.decode_other`).

A call that finds a frame takes that frame off the stream and nothing else,
whatever is then made of it (`FrameReader.Takes`).
-/

namespace MotionLink

open Refusal

/-! ## Blocks of the other direction -/

/-- Type id and length of a registered frame settle which way it travels. -/
theorem Layout.travels_alike : ∀ first ∈ registry, ∀ second ∈ registry,
    first.kind.id = second.kind.id → first.frameLength = second.frameLength →
      first.kind.direction = second.kind.direction := by
  decide

namespace Frame

/-- A block of one direction is refused by the decoder of the other. Where the
type id is known there too, the length is another, and it is checked before the
magic word. -/
theorem decode_other {direction : Direction} {block : Bytes} (whole : IsBlock direction block)
    (other : Direction) (apart : other ≠ direction) :
    ∃ error, decode other block = .error error := by
  obtain ⟨long, layout, known, length⟩ := whole
  have probed : ¬ block.length < probeLength := Nat.not_lt.mpr long
  rw [decode, if_neg probed]
  cases known' : Layout.lookup other (typeId block) with
  | error error => exact ⟨error, rfl⟩
  | ok layout' =>
    obtain ⟨registered, travels, id⟩ := Layout.lookup_eq_ok known
    obtain ⟨registered', travels', id'⟩ := Layout.lookup_eq_ok known'
    have differs : block.length ≠ layout'.frameLength := by
      intro same
      apply apart
      rw [← travels, ← travels']
      exact Layout.travels_alike layout' registered' layout registered (id'.trans id.symm)
        (same.symm.trans length)
    rw [ok_bind, check, if_pos differs]
    exact ⟨_, rfl⟩

section

variable {direction : Direction} {frame : Bytes} {packet : Packet}

/-- A run of bytes that decodes is a block: it is checked against the layout of
its type. -/
theorem isBlock_of_decode (decoded : decode direction frame = .ok packet) :
    IsBlock direction frame := by
  unfold decode at decoded
  split at decoded
  · cases decoded
  rename_i probed
  obtain ⟨layout, known, decoded⟩ := bind_eq_ok.mp decoded
  obtain ⟨_, passed, -⟩ := bind_eq_ok.mp decoded
  exact ⟨Nat.not_lt.mp probed, layout, known, length_of_check passed⟩

/-- A packet that was decoded travels the way that was asked for. -/
theorem direction_of_decode (decoded : decode direction frame = .ok packet) :
    packet.direction = direction := (parts_of_decode decoded).1

end

/-- The decoder of commands is that of the master's frames, which are all commands. -/
theorem decode_eq_decodeCommand (frame : Bytes) :
    decode .masterToBoard frame = Packet.command <$> decodeCommand frame := by
  unfold decodeCommand
  cases decoded : decode .masterToBoard frame with
  | error error => rfl
  | ok packet =>
    cases packet with
    | command command => rfl
    | feedback feedback => exact Direction.noConfusion (direction_of_decode decoded)

/-- The decoder of feedback is that of the boards' frames, which are all feedback. -/
theorem decode_eq_decodeFeedback (frame : Bytes) :
    decode .boardToMaster frame = Packet.feedback <$> decodeFeedback frame := by
  unfold decodeFeedback
  cases decoded : decode .boardToMaster frame with
  | error error => rfl
  | ok packet =>
    cases packet with
    | command command => exact Direction.noConfusion (direction_of_decode decoded)
    | feedback feedback => rfl

/-- No block of one direction is a packet of the other to a reading of what the decoder answers. -/
theorem ne_ok_of_decode_other {α : Type} {read : Bytes → Except FrameError α} {make : α → Packet}
    {direction other : Direction} {block : Bytes}
    (through : decode other block = make <$> read block) (whole : IsBlock direction block)
    (apart : other ≠ direction) (answer : α) : read block ≠ .ok answer := by
  intro decoded
  obtain ⟨error, refused⟩ := decode_other whole other apart
  rw [through, decoded] at refused
  cases refused

end Frame

/-! ## What a call takes off the stream -/

/-- What is made of an arrival keeps the direction, be it taken in, refused or
the end of the stream. -/
theorem Reassembler.direction_arrive (r : Reassembler) (arrival : Except IoFailure Bytes) :
    (r.arrive arrival).2.direction = r.direction := by
  cases arrival with
  | error failure => rfl
  | ok bytes =>
    cases bytes with
    | nil =>
      rcases r.finish_cases with finish | finish
      · rw [Reassembler.arrive, finish]
      · rw [Reassembler.arrive, finish]
        rfl
    | cons byte bytes =>
      rw [Reassembler.arrive, push]
      by_cases full : r.limit < r.buffered + (byte :: bytes).length
      · simp only [full, if_true]
        rfl
      · simp only [full, if_false]
        rfl

namespace FrameReader

/-- A reader has taken one frame off its stream: the bytes behind it and the failures of the source
are all still to come, and the search for the next frame starts anew. -/
structure Takes (r : FrameReader) (frame : Bytes) (after : FrameReader) : Prop where
  whole : IsBlock r.direction frame
  pending : r.pending = frame ++ after.pending
  reported : r.source.reported = after.source.reported
  fresh : after.reassembler.stage = .awaitingHeader

section

variable {settings : StreamSettings} {r after : FrameReader} {frame : Bytes}

/-- A turn that answers with a frame has found it at hand, and has not read. So
the bytes behind the frame and all that is still to come are as they were. -/
theorem Fits.turn_takes (fits : r.Fits settings) (found : r.turn = (some (.ok frame), after)) :
    r.Takes frame after := by
  rcases fits.bounded.nextFrame_outcome with ⟨-, next⟩ | ⟨block, more, whole, front, next⟩ | next
  · rw [turn_of_none next, Prod.mk.injEq, Option.map_eq_some_iff] at found
    obtain ⟨⟨error, -, same⟩, -⟩ := found
    cases same
  · rw [turn_of_frame next] at found
    cases found
    refine ⟨whole, ?_, rfl, rfl⟩
    rw [FrameReader.pending, front, List.append_assoc]
    rfl
  · rw [turn_of_error next] at found
    cases found

/-- A call that finds a frame takes it off the stream, after turns that only
move bytes nearer. On the way no byte is lost, and no failure that is to be
reported. -/
theorem Fits.readFrame_takes (fits : r.Fits settings) (found : r.readFrame.1 = .ok frame) :
    r.Takes frame r.readFrame.2 := by
  refine readFrame_rule (fun now => now.Fits settings ∧ r.Midway now)
    (fun answer after => answer = .ok frame → r.Takes frame after) ?_ ?_ ⟨fits, .refl r⟩ found
  · rintro now later ⟨fits, midway⟩ step
    have kept := fits.turn.1
    rw [step] at kept
    exact ⟨kept, midway.trans (fits.turn_quiet step)⟩
  -- The last turn takes the frame off what the turns before it have only moved.
  · rintro now after answer ⟨fits, midway⟩ step rfl
    obtain ⟨whole, pending, reported, fresh⟩ := fits.turn_takes step
    rw [midway.travels] at whole
    exact ⟨whole, midway.pending.symm.trans pending, midway.reported.symm.trans reported, fresh⟩

/-- A call whose reading takes no block of the reader's direction has no answer. -/
theorem Fits.bind_ne_ok {α : Type} {read : Bytes → Except FrameError α} (fits : r.Fits settings)
    (refuses : ∀ block, IsBlock r.direction block → ∀ answer, read block ≠ .ok answer)
    (answer : α) : (r.readFrame.1 >>= read) ≠ .ok answer := by
  intro answered
  obtain ⟨frame, found, decoded⟩ := bind_eq_ok.mp answered
  exact refuses frame (fits.readFrame_takes found).whole answer decoded

theorem Fits.direction_turn (fits : r.Fits settings) : r.turn.2.direction = r.direction := by
  have kept : r.reassembler.nextFrame.2.direction = r.direction := fits.bounded.coherent.next.1
  rcases r.turn_cases with ⟨-, answer, answers⟩ | ⟨held, next⟩
  · rw [answers]
    exact kept
  · rw [next] at kept
    rw [turn_of_none next]
    exact (held.direction_arrive _).trans kept

/-- What the last turn of a call leaves, a call leaves: the turns before it keep
the invariant and the direction. With this a fact about a single turn becomes
one about a call. -/
theorem Fits.readFrame_last_turn (After : Except FrameError Bytes → FrameReader → Prop)
    (fits : r.Fits settings)
    (done : ∀ (now after : FrameReader) answer, now.Fits settings → now.direction = r.direction →
      now.turn = (some answer, after) → After answer after) :
    After r.readFrame.1 r.readFrame.2 := by
  refine readFrame_rule (fun now => now.Fits settings ∧ now.direction = r.direction) After ?_ ?_
    ⟨fits, rfl⟩
  · rintro now later ⟨fits, same⟩ step
    have kept := fits.turn.1
    have travels := fits.direction_turn
    rw [step] at kept travels
    exact ⟨kept, travels.trans same⟩
  · rintro now after answer ⟨fits, same⟩ step
    exact done now after answer fits same step

theorem Fits.direction_readFrame (fits : r.Fits settings) :
    r.readFrame.2.direction = r.direction := by
  refine fits.readFrame_last_turn (fun _ after => after.direction = r.direction) ?_
  intro now after answer kept same step
  have travels := kept.direction_turn
  rw [step] at travels
  exact travels.trans same

/-- A reader keeps its direction, whatever becomes of it. -/
theorem Fits.direction_becomes (fits : r.Fits settings) (becomes : r.Becomes after) :
    after.direction = r.direction := by
  induction becomes with
  | start => rfl
  | grow events _ kept => exact kept
  | turn before kept => exact (fits.becomes before).direction_turn.trans kept
  | call call before kept =>
    rw [call_eq]
    exact (fits.becomes before).direction_readFrame.trans kept

end

/-! ## Asking for the other direction -/

/-- The directions never mix. A frame that is decoded has a packet of its own direction and is
refused in the other, and commands and feedback are just the packets of the two. A reader, whatever
it has read and been asked before, answers no call for the other direction's packets with one; such
a call takes a frame off the stream as any other does, one at a time. -/
theorem directions_apart :
    (∀ direction frame packet, Frame.decode direction frame = .ok packet →
      packet.direction = direction ∧
        ∀ other, other ≠ direction → ∃ error, Frame.decode other frame = .error error) ∧
    (∀ frame,
      Frame.decode .masterToBoard frame = Packet.command <$> Frame.decodeCommand frame ∧
        Frame.decode .boardToMaster frame = Packet.feedback <$> Frame.decodeFeedback frame) ∧
    ∀ direction settings events r, (new direction settings events).Becomes r →
      (direction = .boardToMaster → ∀ command, r.readCommand.1 ≠ .ok command) ∧
      (direction = .masterToBoard → ∀ feedback, r.readFeedback.1 ≠ .ok feedback) ∧
      ∀ frame, r.readFrame.1 = .ok frame → r.direction = direction ∧
        r.readCommand.1 = Frame.decodeCommand frame ∧ r.Takes frame r.readCommand.2 ∧
        r.readFeedback.1 = Frame.decodeFeedback frame ∧ r.Takes frame r.readFeedback.2 := by
  refine ⟨?_, ?_, ?_⟩
  · intro direction frame packet decoded
    exact ⟨Frame.direction_of_decode decoded,
      Frame.decode_other (Frame.isBlock_of_decode decoded)⟩
  · intro frame
    exact ⟨Frame.decode_eq_decodeCommand frame, Frame.decode_eq_decodeFeedback frame⟩
  · intro direction settings events r reached
    have start := fits_new direction settings events
    have fits := start.becomes reached
    have travels : r.direction = direction := start.direction_becomes reached
    refine ⟨?_, ?_, ?_⟩
    · rintro rfl
      apply fits.bind_ne_ok
      intro block whole
      rw [travels] at whole
      exact Frame.ne_ok_of_decode_other (Frame.decode_eq_decodeCommand block) whole nofun
    · rintro rfl
      apply fits.bind_ne_ok
      intro block whole
      rw [travels] at whole
      exact Frame.ne_ok_of_decode_other (Frame.decode_eq_decodeFeedback block) whole nofun
    · intro frame found
      have takes := fits.readFrame_takes found
      refine ⟨travels, ?_, takes, ?_, takes⟩
      · show (r.readFrame.1 >>= Frame.decodeCommand) = _
        rw [found, ok_bind]
      · show (r.readFrame.1 >>= Frame.decodeFeedback) = _
        rw [found, ok_bind]

/-- A command is asked for where a board's diagnostics arrive, whose type id is that of a homing
request. The two bytes behind them stay for the next call. -/
theorem directions_apart_diagnostics :
    let frame : Bytes :=
      [85, 187, 3, 2, 232, 3, 0, 0, 0, 0, 128, 63, 0, 0, 0, 192, 5, 0, 7, 9, 1, 0, 0, 2, 84, 209]
    let report : Packet :=
      .feedback ⟨⟨2⟩, 1000, .diagnostics ⟨⟨0x3F800000⟩, ⟨0xC0000000⟩, 5, 7, 9⟩⟩
    let r := new .boardToMaster ⟨1024, 0⟩ [.data frame, .data [85, 187]]
    Frame.decode .boardToMaster frame = .ok report ∧ report.direction = .boardToMaster ∧
      (∃ error, Frame.decode .masterToBoard frame = .error error) ∧
      r.readFrame.1 = .ok frame ∧ (∀ command, r.readCommand.1 ≠ .ok command) ∧
      r.readCommand.1 = .error (.lengthMismatch (.command .startHoming) 7 26) ∧
      r.Takes frame r.readCommand.2 ∧ r.readCommand.2.pending = [85, 187] := by
  intro frame report r
  obtain ⟨frames, -, readers⟩ := directions_apart
  have decoded : Frame.decode .boardToMaster frame = .ok report := by decide +kernel
  obtain ⟨travels, refused⟩ := frames .boardToMaster frame report decoded
  obtain ⟨never, -, took⟩ := readers .boardToMaster ⟨1024, 0⟩ _ r .start
  have found : r.readFrame.1 = .ok frame := by decide +kernel
  obtain ⟨-, answer, takes, -⟩ := took frame found
  refine ⟨decoded, travels, refused .masterToBoard nofun, found, never rfl, ?_, takes, ?_⟩
  · rw [answer]
    decide +kernel
  · have pending : r.pending = frame ++ [85, 187] := by decide +kernel
    exact List.append_cancel_left (takes.pending.symm.trans pending)

end FrameReader

end MotionLink

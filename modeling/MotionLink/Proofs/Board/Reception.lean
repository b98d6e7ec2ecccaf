import Mathlib
import MotionLink.Proofs.Board.Reports
import MotionLink.Proofs.Frame.Errors
import MotionLink.Proofs.Frame.Exactness
import MotionLink.Proofs.Frame.RoundTrip
import MotionLink.Proofs.Stream.Blocks

/-!
# A board at the end of a stream

A board that takes in what a reassembler gives, commands and refusals, has the
history that the blocks of the stream spell out one by one
(`attend_blocks`): the reassembler answers every block, whatever is wrong with
others and however the chunks cut them. What the board becomes then follows
from its history. A stop is never lost that way, and every block that is
damaged is counted (`stop_lands`).
-/

namespace MotionLink.Board

/-! ## Blocks as events -/

/-- Takes in what a stream gives: a command, or the refusal of a frame. -/
def attend (b : Board) : Except FrameError Packet → Board
  | .ok (.command command) => (b.apply command).2
  | .ok (.feedback _) => b
  | .error _ => b.recordRejected

/-- What the bytes of a frame are to a board. -/
def Event.ofFrame (frame : Bytes) : Event :=
  match Frame.decode .masterToBoard frame with
  | .ok (.command c) => .command c
  | _ => .rejection

/-- The frame decodes to a command with this body for the board on a segment. -/
def Tells (segment : Segment) (frame : Bytes) (body : CommandBody) : Prop :=
  ∃ command, Frame.decode .masterToBoard frame = .ok (.command command) ∧
    command.Concerns segment ∧ command.body = body

section

variable {segment : Segment} {frame : Bytes}

/-- A frame from the master is no report. -/
theorem decode_ne_feedback (feedback : Feedback) :
    Frame.decode .masterToBoard frame ≠ .ok (.feedback feedback) :=
  fun decoded => Direction.noConfusion (Frame.parts_of_decode decoded).1

/-- Taking in the packet of a frame is living through the frame as an event. -/
theorem attend_decode (b : Board) (frame : Bytes) :
    b.attend (Frame.decode .masterToBoard frame) = b.after (.ofFrame frame) := by
  unfold Event.ofFrame
  cases decoded : Frame.decode .masterToBoard frame with
  | error error => rfl
  | ok packet =>
    cases packet with
    | command command => rfl
    | feedback feedback => exact absurd decoded (decode_ne_feedback feedback)

/-- The blocks of a stream are the history of the board that takes in their packets. -/
theorem attend_blocks (b : Board) (blocks : List Bytes) :
    (blocks.map (Frame.decode .masterToBoard)).foldl attend b =
      b.run (blocks.map Event.ofFrame) := by
  rw [run, List.foldl_map, List.foldl_map]
  congr 1
  funext b block
  exact attend_decode b block

/-- A frame is a rejection where it does not decode, since a board decodes in
the direction in which every packet is a command. -/
theorem ofFrame_eq_rejection :
    Event.ofFrame frame = .rejection ↔ (Frame.decode .masterToBoard frame).isOk = false := by
  unfold Event.ofFrame
  cases decoded : Frame.decode .masterToBoard frame with
  | error error => exact iff_of_true rfl rfl
  | ok packet =>
    cases packet with
    | command command => exact iff_of_false Event.noConfusion Bool.noConfusion
    | feedback feedback => exact absurd decoded (decode_ne_feedback feedback)

theorem tells_iff {body : CommandBody} :
    Tells segment frame body ↔ (Event.ofFrame frame).told? segment = some body := by
  unfold Tells Event.ofFrame
  constructor
  · rintro ⟨command, decoded, concerns, rfl⟩
    rw [decoded]
    exact if_pos concerns
  · intro told
    split at told
    · rename_i command decoded
      by_cases concerns : command.Concerns segment
      · exact ⟨command, decoded, concerns, Option.some.inj ((if_pos concerns).symm.trans told)⟩
      · cases (if_neg concerns).symm.trans told
    · cases told

/-- What a board has heard of a stream, block by block. Blocks that do not
decode and commands for others tell it nothing. -/
theorem heard_blocks (segment : Segment) (blocks : List Bytes) :
    heard segment (blocks.map Event.ofFrame) =
      blocks.filterMap fun block => (Event.ofFrame block).told? segment :=
  List.filterMap_map

/-- A board has heard a command exactly where some block of the stream tells it. -/
theorem mem_heard_blocks {blocks : List Bytes} {body : CommandBody} :
    body ∈ heard segment (blocks.map Event.ofFrame) ↔
      ∃ block ∈ blocks, Tells segment block body := by
  simp only [heard_blocks, List.mem_filterMap, tells_iff]

/-- The frame of a command that was sent tells the boards it concerns. -/
theorem tells_of_encode {command : Command} (sent : Frame.encode (.command command) = .ok frame)
    (concerns : command.Concerns segment) : Tells segment frame command.body :=
  ⟨command, Frame.decode_of_encode sent, concerns, rfl⟩

/-! ## Stops in a stream -/

/-- Behind a block that tells a board to stop, and with none that sets it to operation, the stop
holds. -/
theorem stopped_of_tells (b : Board) {before since : List Bytes} {stop : Bytes} {reason : UInt8}
    (told : Tells b.segment stop (.emergencyStop reason))
    (held : ∀ block ∈ since, ¬ Tells b.segment block (.setMode .operation)) :
    (b.run ((before ++ stop :: since).map Event.ofFrame)).stopped = true := by
  have split : b.run ((before ++ stop :: since).map Event.ofFrame) =
      ((b.run (before.map Event.ofFrame)).after (.ofFrame stop)).run (since.map Event.ofFrame) := by
    rw [List.map_append, List.map_cons, run, List.foldl_append]
    rfl
  have same : ((b.run (before.map Event.ofFrame)).after (.ofFrame stop)).segment = b.segment := by
    rw [segment_after, segment_run]
  rw [split]
  refine stopped_stays ?_ ?_
  · rcases after_cases (b.run (before.map Event.ofFrame)) (.ofFrame stop) with
      ⟨-, none, -⟩ | ⟨-, none, -⟩ | ⟨-, body, some, becomes⟩
    · rw [segment_run, tells_iff.mp told] at none
      cases none
    · rw [segment_run, tells_iff.mp told] at none
      cases none
    · rw [segment_run, tells_iff.mp told] at some
      cases some
      rw [becomes]
      rfl
  · rw [same, mem_heard_blocks]
    rintro ⟨block, member, operates⟩
    exact held block member operates

/-- The block that has told a board to stop last, and its reason. Its reason is
the one that the board remembers, whatever comes behind it. -/
theorem last_stop {blocks : List Bytes} {stop : Bytes} {reason : UInt8} (member : stop ∈ blocks)
    (told : Tells segment stop (.emergencyStop reason)) :
    ∃ before last since final, blocks = before ++ last :: since ∧
      Tells segment last (.emergencyStop final) ∧
      (∀ block ∈ since, ∀ other, ¬ Tells segment block (.emergencyStop other)) ∧
      latest? stopReason? (heard segment (blocks.map Event.ofFrame)) = some final := by
  have asked : latest? stopReason? (heard segment (blocks.map Event.ofFrame)) =
      (blocks.filterMap fun block =>
        ((Event.ofFrame block).told? segment).bind stopReason?).getLast? := by
    rw [latest?, heard_blocks, List.filterMap_filterMap]
  rw [asked]
  cases answer : (blocks.filterMap fun block =>
    ((Event.ofFrame block).told? segment).bind stopReason?).getLast? with
  | none =>
    have silent := List.filterMap_eq_nil_iff.mp (List.getLast?_eq_none_iff.mp answer) stop member
    rw [tells_iff.mp told] at silent
    cases silent
  | some final =>
    obtain ⟨before, last, since, split, found, silent⟩ := last_answer answer
    obtain ⟨body, heard, stops⟩ := Option.bind_eq_some_iff.mp found
    refine ⟨before, last, since, final, split, tells_iff.mpr ?_, ?_, rfl⟩
    · cases body with
      | emergencyStop reason =>
        cases stops
        exact heard
      | _ => cases stops
    · intro block later other again
      have none := silent block later
      rw [tells_iff.mp again] at none
      cases none

end

/-- A board takes in what a reassembler gives of a stream of blocks, whatever they hold and however
the chunks cut them. A stop in one of them holds at the end unless a later one sets the board to
operation, with the reason of the last stop. The error counter has grown by the number of blocks
that do not decode, or has reached its highest value. -/
theorem stop_lands (b : Board) {settings : StreamSettings} {blocks chunks : List Bytes}
    (whole : ∀ block ∈ blocks, IsBlock .masterToBoard block)
    (stream : chunks.flatten = blocks.flatten)
    (room : ∀ size max, .error (.bufferOverflow size max) ∉
      ((Reassembler.new .masterToBoard settings).feed chunks).1) :
    let answers := ((Reassembler.new .masterToBoard settings).feed chunks).1
    let last := answers.foldl attend b
    (∀ before stop since target reason, blocks = before ++ stop :: since →
      Frame.encode (.command ⟨target, .emergencyStop reason⟩) = .ok stop →
      Command.Concerns ⟨target, .emergencyStop reason⟩ b.segment →
      (∀ block ∈ since, ¬ Tells b.segment block (.setMode .operation)) →
      last.stopped = true ∧
        ∃ before' stop' since' reason', blocks = before' ++ stop' :: since' ∧
          Tells b.segment stop' (.emergencyStop reason') ∧
          (∀ block ∈ since', ∀ other, ¬ Tells b.segment block (.emergencyStop other)) ∧
          last.lastStopReason = some reason') ∧
      last.errorCount.toNat = min (b.errorCount.toNat +
        blocks.countP fun block => !(Frame.decode .masterToBoard block).isOk) (2 ^ 16 - 1) := by
  intro answers last
  -- The reassembler answers block by block, so the blocks are the history, chunks or no chunks.
  have history : last = b.run (blocks.map Event.ofFrame) := by
    rw [← attend_blocks]
    exact congrArg (List.foldl attend b) (Reassembler.feed_blocks whole stream room)
  rw [history]
  constructor
  · intro before stop since target reason split sent concerns held
    have told := tells_of_encode sent concerns
    refine ⟨split ▸ stopped_of_tells b told held, ?_⟩
    obtain ⟨before', stop', since', reason', split', told', final, answer⟩ :=
      last_stop (split ▸ List.mem_append_right _ List.mem_cons_self) told
    refine ⟨before', stop', since', reason', split', told', final, ?_⟩
    rw [lastStopReason_run, answer, Option.some_or]
  · have damaged : ((· == Event.rejection) ∘ Event.ofFrame) =
        fun block => !(Frame.decode .masterToBoard block).isOk := by
      funext block
      rw [Function.comp_apply, Bool.eq_iff_iff, beq_iff_eq, ofFrame_eq_rejection, Bool.not_eq_true']
    rw [errorCount_run, List.count_eq_countP, List.countP_map, damaged]

/-- A stop between damaged frames, cut inside its type id and inside its body. The operation behind
it is for another board, and one for this board is damaged. The counter has one rejection left. -/
theorem stop_lands_amid_damage :
    let b : Board :=
      { new ⟨2⟩ with mode := .operation, errorCount := 65534, lastError := .crcError }
    let stop : Bytes := [85, 170, 2, 2, 1, 151, 189]
    let since : List Bytes := [[85, 170, 8, 3, 3, 37, 105], [85, 170, 8, 2, 3, 20, 91]]
    let blocks : List Bytes := [[0, 0, 9, 2, 57, 173]] ++ stop :: since
    let chunks : List Bytes :=
      [[0, 0, 9, 2, 57, 173, 85, 170], [], [2, 2, 1], [151, 189, 85, 170, 8, 3, 3, 37, 105],
        [85, 170, 8, 2, 3, 20, 91]]
    let answers := ((Reassembler.new .masterToBoard {}).feed chunks).1
    let last := answers.foldl attend b
    (∀ block ∈ blocks, IsBlock .masterToBoard block) ∧ chunks.flatten = blocks.flatten ∧
      (∀ size max, .error (.bufferOverflow size max) ∉ answers) ∧
      Frame.encode (.command ⟨⟨2⟩, .emergencyStop 1⟩) = .ok stop ∧
      (∀ block ∈ since, ¬ Tells b.segment block (.setMode .operation)) ∧
      last.stopped = true ∧ last.lastStopReason = some 1 ∧ last.errorCount = 65535 := by
  intro b stop since blocks chunks answers last
  have whole : ∀ block ∈ blocks, IsBlock .masterToBoard block := by
    intro block member
    simp only [blocks, since, List.cons_append, List.nil_append, List.mem_cons, List.not_mem_nil,
      or_false] at member
    rcases member with rfl | rfl | rfl | rfl <;> exact ⟨by decide, _, rfl, rfl⟩
  have stream : chunks.flatten = blocks.flatten := by decide
  have decoded : answers = blocks.map (Frame.decode .masterToBoard) := by decide +kernel
  have room : ∀ size max, .error (.bufferOverflow size max) ∉ answers := by
    intro size max overflow
    rw [decoded] at overflow
    obtain ⟨block, -, refused⟩ := List.mem_map.mp overflow
    cases Frame.ofStream_of_decode refused
  have sent : Frame.encode (.command ⟨⟨2⟩, .emergencyStop 1⟩) = .ok stop := by decide +kernel
  have held : ∀ block ∈ since, ¬ Tells b.segment block (.setMode .operation) := by
    intro block member
    rw [tells_iff]
    revert block
    decide +kernel
  obtain ⟨stops, counted⟩ := stop_lands b whole stream room
  refine ⟨whole, stream, room, sent, held, ?_, by decide +kernel, UInt16.toNat_inj.mp ?_⟩
  · exact (stops _ stop since ⟨2⟩ 1 rfl sent (.inr rfl) held).1
  · refine counted.trans ?_
    decide +kernel

end MotionLink.Board

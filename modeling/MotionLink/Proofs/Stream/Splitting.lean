import Mathlib
import MotionLink.Proofs.Frame.Parts
import MotionLink.Proofs.Layout.Lookup
import MotionLink.Stream.Splitter

/-!
# What a splitter takes off a stream

The stage of a splitter holds nothing that its bytes do not say already: where
it names a layout, that is the layout of the type id at hand
(`Splitter.Coherent`). So the next answer follows from the bytes alone, in three
cases: an unknown type (`next_of_unknown`), the beginning of a block
(`next_of_tail`) and a block with more behind it (`next_of_block`). Every
operation keeps a splitter coherent.

`Splitter.Ahead` relates a splitter to the blocks that are still to come off a
stream, cut anywhere between the bytes at hand and those to arrive. An answer
either leaves them as they are or takes exactly the first (`Ahead.next`).
-/

namespace MotionLink

/-! ## Blocks and tails -/

/-- A run of bytes that has a registered type id and the length of that type. -/
def IsBlock (direction : Direction) (block : Bytes) : Prop :=
  3 ≤ block.length ∧ ∃ layout, Layout.lookup direction (Frame.typeId block) = .ok layout ∧
    block.length = layout.frameLength

/-- The beginning of a block: too short for a type id, or shorter than its type. -/
def IsTail (direction : Direction) (tail : Bytes) : Prop :=
  tail.length < 3 ∨ ∃ layout, Layout.lookup direction (Frame.typeId tail) = .ok layout ∧
    tail.length < layout.frameLength

/-- The length of the block that a tail begins, where its type id is there to tell. -/
def blockLength? (direction : Direction) (tail : Bytes) : Option Nat :=
  if tail.length < 3 then none
  else (Layout.lookup direction (Frame.typeId tail)).toOption.map Layout.frameLength

/-- The beginning of a tail is a tail. -/
theorem IsTail.of_append {direction : Direction} {bytes more : Bytes}
    (cut : IsTail direction (bytes ++ more)) : IsTail direction bytes := by
  by_cases short : bytes.length < 3
  · exact .inl short
  · rcases cut with short' | ⟨layout, known, length⟩
    · rw [List.length_append] at short'
      omega
    · rw [Frame.typeId_append (by omega)] at known
      rw [List.length_append] at length
      exact .inr ⟨layout, known, by omega⟩

/-- What a block begins with, short of the whole block, is a tail. Cutting a
stream inside a block therefore leaves a front that asks for more bytes. -/
theorem IsBlock.isTail {direction : Direction} {block bytes more after : Bytes}
    (whole : IsBlock direction block) (stream : bytes ++ more = block ++ after)
    (short : bytes.length < block.length) : IsTail direction bytes := by
  obtain ⟨long, layout, known, length⟩ := whole
  by_cases probed : bytes.length < 3
  · exact .inl probed
  · refine .inr ⟨layout, ?_, length ▸ short⟩
    rw [← Frame.typeId_append (by omega) more, stream, Frame.typeId_append long]
    exact known

/-- The front of a stream is a tail, a block with more behind it, or of no known
type. The three exclude each other, and every search for a frame is taken apart
by them. -/
theorem front_cases (direction : Direction) (bytes : Bytes) :
    IsTail direction bytes ∨ (∃ block more, IsBlock direction block ∧ bytes = block ++ more) ∨
      (3 ≤ bytes.length ∧
        ∃ error, Layout.lookup direction (Frame.typeId bytes) = .error error) := by
  by_cases short : bytes.length < 3
  · exact .inl (.inl short)
  have probed := Nat.not_lt.mp short
  cases known : Layout.lookup direction (Frame.typeId bytes) with
  | error error => exact .inr (.inr ⟨probed, error, rfl⟩)
  | ok layout =>
    by_cases length : bytes.length < layout.frameLength
    · exact .inl (.inr ⟨layout, known, length⟩)
    · have sized := (Layout.frameLength_bounds (Layout.lookup_eq_ok known).1).1
      have parts := (List.take_append_drop layout.frameLength bytes).symm
      have taken : (bytes.take layout.frameLength).length = layout.frameLength := by
        rw [List.length_take]
        omega
      refine .inr (.inl ⟨_, _, ⟨by omega, layout, ?_, taken⟩, parts⟩)
      rw [← Frame.typeId_append (by omega) (bytes.drop layout.frameLength), ← parts]
      exact known

/-- The stage that the bytes at the front of a stream settle. -/
def Stage.of (direction : Direction) (bytes : Bytes) : Stage :=
  if bytes.length < 3 then .awaitingHeader
  else
    match Layout.lookup direction (Frame.typeId bytes) with
    | .ok layout => .awaitingBody layout
    | .error _ => .awaitingHeader

namespace Splitter

/-! ## Coherence -/

/-- A stage that names a layout agrees with the bytes at hand. -/
def Coherent (s : Splitter) : Prop :=
  ∀ layout, s.stage = .awaitingBody layout →
    3 ≤ s.buffer.length ∧ Layout.lookup s.direction (Frame.typeId s.buffer) = .ok layout

/-- A stage without a layout says nothing that the bytes could contradict. -/
theorem coherent_of_header {s : Splitter} (header : s.stage = .awaitingHeader) : s.Coherent :=
  fun _ body => absurd (header.symm.trans body) nofun

theorem coherent_start (direction : Direction) : (start direction).Coherent :=
  coherent_of_header rfl

/-- Bytes that arrive go behind those at hand and do not change the type id. -/
theorem Coherent.extend {s : Splitter} (coherent : s.Coherent) (bytes : Bytes) :
    (s.extend bytes).Coherent := by
  intro layout body
  obtain ⟨probed, known⟩ := coherent layout body
  refine ⟨?_, ?_⟩
  · simp only [Splitter.extend, List.length_append]
    omega
  · rw [Splitter.extend, Frame.typeId_append probed]
    exact known

/-! ## The stage that bytes settle -/

/-- The splitter that has looked at its bytes, as far as they go. -/
def settled (s : Splitter) : Splitter := { s with stage := .of s.direction s.buffer }

theorem coherent_settled (s : Splitter) : s.settled.Coherent := by
  intro layout body
  simp only [settled, Stage.of] at body
  split at body
  · cases body
  · rename_i probed
    split at body
    · rename_i known
      cases body
      exact ⟨Nat.not_lt.mp probed, known⟩
    · cases body

/-- What the end of the stream would cut off. -/
theorem truncation_settled (s : Splitter) :
    s.settled.truncation =
      .truncatedFrame s.buffer.length (blockLength? s.direction s.buffer) := by
  unfold truncation settled Stage.of blockLength?
  by_cases short : s.buffer.length < 3
  · simp only [short, if_true]
  · simp only [short, if_false]
    cases Layout.lookup s.direction (Frame.typeId s.buffer) with
    | error error => rfl
    | ok layout => rfl

/-! ## The next answer, by the bytes at hand -/

section

variable {s : Splitter} {layout : Layout}

/-- An unknown type costs all bytes at hand, and the splitter is as it was at
the start. It has no length by which the next frame could be found. -/
theorem next_of_unknown {error : FrameError} (coherent : s.Coherent) (probed : 3 ≤ s.buffer.length)
    (unknown : Layout.lookup s.direction (Frame.typeId s.buffer) = .error error) :
    s.next = (.error error, start s.direction) := by
  cases stage : s.stage with
  | awaitingBody layout =>
    have known := (coherent layout stage).2
    rw [unknown] at known
    cases known
  | awaitingHeader =>
    have long : ¬ s.buffer.length < Frame.probeLength := Nat.not_lt.mpr probed
    simp only [next, stage, long, if_false, unknown, start]

/-- Where the type is known, the stage makes no difference: either it names the
layout already, or the search looks it up and finds the same one. -/
theorem next_of_known (coherent : s.Coherent) (probed : 3 ≤ s.buffer.length)
    (known : Layout.lookup s.direction (Frame.typeId s.buffer) = .ok layout) :
    s.next = (.ok (s.takeBody layout).1, (s.takeBody layout).2) := by
  cases stage : s.stage with
  | awaitingBody layout' =>
    have same := (coherent layout' stage).2
    rw [known] at same
    cases same
    simp only [next, stage]
  | awaitingHeader =>
    have long : ¬ s.buffer.length < Frame.probeLength := Nat.not_lt.mpr probed
    simp only [next, stage, long, if_false, known]

/-- A tail stays at hand, and settles the stage: the next search will know the
layout, as far as the type id has arrived. -/
theorem next_of_tail (coherent : s.Coherent) (cut : IsTail s.direction s.buffer) :
    s.next = (.ok none, s.settled) := by
  by_cases short : s.buffer.length < 3
  · cases stage : s.stage with
    | awaitingBody layout =>
      have probed := (coherent layout stage).1
      omega
    | awaitingHeader =>
      simp only [next, stage, Frame.probeLength, settled, Stage.of, short, if_true]
      rw [← stage]
  · obtain ⟨layout, known, length⟩ := cut.resolve_left short
    rw [next_of_known coherent (Nat.not_lt.mp short) known, takeBody, if_pos length]
    simp only [settled, Stage.of, short, if_false, known]

/-- A block at the front is taken off whole. What is behind it stays at hand,
and the search begins anew there. -/
theorem next_of_block {block more : Bytes} (coherent : s.Coherent)
    (whole : IsBlock s.direction block) (front : s.buffer = block ++ more) :
    s.next = (.ok (some block), ⟨s.direction, .awaitingHeader, more⟩) := by
  obtain ⟨long, layout, known, length⟩ := whole
  have probed : 3 ≤ s.buffer.length := by
    rw [front, List.length_append]
    omega
  have enough : ¬ s.buffer.length < layout.frameLength := by
    rw [front, List.length_append]
    omega
  have known' : Layout.lookup s.direction (Frame.typeId s.buffer) = .ok layout := by
    rw [front, Frame.typeId_append long]
    exact known
  rw [next_of_known coherent probed known', takeBody, if_neg enough, front, ← length,
    List.take_left, List.drop_left]

end

/-- An answer keeps the direction and leaves a coherent splitter, whichever of
the three cases it came from. -/
theorem Coherent.next {s : Splitter} (coherent : s.Coherent) :
    s.next.2.direction = s.direction ∧ s.next.2.Coherent := by
  rcases front_cases s.direction s.buffer with cut | ⟨block, more, whole, front⟩ |
    ⟨probed, error, unknown⟩
  · rw [next_of_tail coherent cut]
    exact ⟨rfl, coherent_settled s⟩
  · rw [next_of_block coherent whole front]
    exact ⟨rfl, coherent_of_header rfl⟩
  · rw [next_of_unknown coherent probed unknown]
    exact ⟨rfl, coherent_start s.direction⟩

/-! ## A stream of blocks -/

/-- The bytes at hand, with `coming` behind them, are the blocks `left` and then
`tail`. Where the bytes at hand end is left open: it may be inside a block, in
front of its type id or behind it. -/
structure Ahead (s : Splitter) (coming : Bytes) (left : List Bytes) (tail : Bytes) : Prop where
  coherent : s.Coherent
  blocks : ∀ block ∈ left, IsBlock s.direction block
  cut : IsTail s.direction tail
  stream : s.buffer ++ coming = left.flatten ++ tail

/-- Bytes that arrive were ahead before. -/
theorem Ahead.extend {s : Splitter} {chunk coming tail : Bytes} {left : List Bytes}
    (ahead : s.Ahead (chunk ++ coming) left tail) : (s.extend chunk).Ahead coming left tail where
  coherent := ahead.coherent.extend chunk
  blocks := ahead.blocks
  cut := ahead.cut
  stream := by
    rw [← ahead.stream, Splitter.extend, List.append_assoc]

/-- What an answer does to the blocks ahead. "Not yet" keeps them all, and there are none once
every byte has arrived; otherwise the first one is taken off. -/
theorem Ahead.next {s : Splitter} {coming tail : Bytes} {left : List Bytes}
    (ahead : s.Ahead coming left tail) :
    (s.next = (.ok none, s.settled) ∧ s.settled.Ahead coming left tail ∧
      (coming = [] → left = [])) ∨
    ∃ block left' more, left = block :: left' ∧
      s.next = (.ok (some block), ⟨s.direction, .awaitingHeader, more⟩) ∧
      Ahead ⟨s.direction, .awaitingHeader, more⟩ coming left' tail := by
  have settled : s.settled.Ahead coming left tail :=
    ⟨coherent_settled s, ahead.blocks, ahead.cut, ahead.stream⟩
  obtain ⟨coherent, blocks, cut, stream⟩ := ahead
  cases left with
  | nil =>
    have begun : IsTail s.direction s.buffer :=
      IsTail.of_append (show IsTail s.direction (s.buffer ++ coming) from stream ▸ cut)
    exact .inl ⟨next_of_tail coherent begun, settled, fun _ => rfl⟩
  | cons block left' =>
    have whole := blocks block List.mem_cons_self
    rw [List.flatten_cons, List.append_assoc] at stream
    by_cases short : s.buffer.length < block.length
    · refine .inl ⟨next_of_tail coherent (whole.isTail stream short), settled, fun arrived => ?_⟩
      -- Without bytes to come, those at hand include the block.
      have lengths := congrArg List.length stream
      rw [arrived, List.append_nil, List.length_append] at lengths
      omega
    · obtain ⟨more, front, rest⟩ : ∃ more, s.buffer = block ++ more ∧
          more ++ coming = left'.flatten ++ tail := by
        rcases List.append_eq_append_iff.mp stream with ⟨as, front, rest⟩ | ⟨more, front, rest⟩
        · -- The bytes at hand are no fewer than the block, so they are the block.
          have lengths := congrArg List.length front
          rw [List.length_append] at lengths
          have ended : as = [] := List.length_eq_zero_iff.mp (by omega)
          subst ended
          exact ⟨[], by rw [front, List.append_nil, List.append_nil], rest⟩
        · exact ⟨more, front, rest.symm⟩
      refine .inr ⟨block, left', more, rfl, next_of_block coherent whole front, ?_⟩
      exact ⟨coherent_of_header rfl, fun b mem => blocks b (List.mem_cons_of_mem _ mem), cut, rest⟩

end Splitter

end MotionLink

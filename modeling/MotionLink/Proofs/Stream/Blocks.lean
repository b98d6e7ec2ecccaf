import Mathlib
import MotionLink.Proofs.Stream.Calls
import MotionLink.Proofs.Stream.Splitting

/-!
# A stream of blocks, read packet by packet

A reassembler that is given blocks and then a tail takes exactly the blocks off,
one packet or one refusal for each, however the bytes are cut and whenever it is
asked. The invariant is `Splitter.Ahead`: what is at hand and what is still to
come make up the blocks not answered yet. One call keeps it (`call_ahead`), so a
run does (`run_ahead`), and so does a drain (`drain_ahead`).
-/

namespace MotionLink.Reassembler

/-- Whether a call has a part in reading packets. -/
def Call.reads : Call → Bool
  | .push _ | .nextPacket => true
  | _ => false

/-- The answer for a frame is never "not yet". -/
theorem some_map_ne_none (result : Except FrameError Packet) : some <$> result ≠ .ok none := by
  cases result with
  | error error => exact nofun
  | ok packet => exact nofun

section

variable {r r' : Reassembler} {coming tail : Bytes} {left : List Bytes}

/-! ## One call -/

/-- The two answers of `nextPacket`, by the blocks ahead. Either it is "not
yet", and then the blocks ahead stay and only the stage is settled, or it is
what the first block decodes to, and then that block is gone, be it intact or
not. -/
theorem nextPacket_ahead (ahead : r.splitter.Ahead coming left tail) :
    (r.nextPacket = (.ok none, ⟨r.limit, r.splitter.settled⟩) ∧
      r.splitter.settled.Ahead coming left tail ∧ (coming = [] → left = [])) ∨
    ∃ block left' more, left = block :: left' ∧
      r.nextPacket = (some <$> Frame.decode r.direction block,
        ⟨r.limit, ⟨r.direction, .awaitingHeader, more⟩⟩) ∧
      Splitter.Ahead ⟨r.direction, .awaitingHeader, more⟩ coming left' tail := by
  rcases ahead.next with ⟨answer, kept, arrived⟩ | ⟨block, left', more, rfl, answer, kept⟩
  · refine .inl ⟨?_, kept, arrived⟩
    simp only [nextPacket, nextFrame, answer]
  · refine .inr ⟨block, left', more, rfl, ?_, kept⟩
    simp only [nextPacket, nextFrame, answer, direction]

/-- A call takes the first block off, or none, and its answer is the packet of
what it took. A push takes none, provided that there is room for the chunk. -/
theorem call_ahead {call : Call} (ahead : r.splitter.Ahead (call.chunk ++ coming) left tail)
    (reads : call.reads) (room : (r.call call).1.overflows = false) :
    ∃ taken left', left = taken ++ left' ∧
      Answer.packets [(r.call call).1] = taken.map (Frame.decode r.direction) ∧
      (r.call call).2.direction = r.direction ∧
      (r.call call).2.splitter.Ahead coming left' tail := by
  cases call with
  | push chunk =>
    by_cases full : r.limit < r.buffered + chunk.length
    · simp only [Reassembler.call, push, full, if_true, Answer.overflows] at room
      cases room
    · refine ⟨[], left, rfl, ?_⟩
      simp only [Reassembler.call, push, full, if_false]
      exact ⟨rfl, rfl, ahead.extend⟩
  | nextPacket =>
    rcases nextPacket_ahead ahead with ⟨answer, kept, -⟩ | ⟨block, left', more, rfl, answer, kept⟩
    · refine ⟨[], left, rfl, ?_⟩
      simp only [Reassembler.call, answer]
      exact ⟨rfl, rfl, kept⟩
    · refine ⟨[block], left', rfl, ?_⟩
      simp only [Reassembler.call, answer]
      exact ⟨Answer.packets_packet _ [], rfl, kept⟩
  | nextFrame => cases reads
  | finish => cases reads
  | reset => cases reads

/-! ## A run -/

/-- A run takes the first blocks off, and its packets are theirs. The induction
is on the calls, and what the invariant says is ahead shrinks from call to call. -/
theorem run_ahead {calls : List Call}
    (ahead : r.splitter.Ahead (Call.chunks calls ++ coming) left tail)
    (reads : ∀ call ∈ calls, call.reads)
    (room : ∀ answer ∈ (r.run calls).1, answer.overflows = false) :
    ∃ taken left', left = taken ++ left' ∧
      Answer.packets (r.run calls).1 = taken.map (Frame.decode r.direction) ∧
      (r.run calls).2.direction = r.direction ∧
      (r.run calls).2.splitter.Ahead coming left' tail := by
  unfold run at room ⊢
  induction calls generalizing r left with
  | nil => exact ⟨[], left, rfl, rfl, rfl, ahead⟩
  | cons call calls ih =>
    rw [Call.chunks_cons, List.append_assoc] at ahead
    rw [converse_cons] at room ⊢
    obtain ⟨first, left', rfl, packets, direction, kept⟩ :=
      call_ahead ahead (reads call List.mem_cons_self) (room _ List.mem_cons_self)
    obtain ⟨rest, left'', rfl, packets', direction', kept'⟩ :=
      ih kept (fun c mem => reads c (List.mem_cons_of_mem _ mem))
        (fun a mem => room a (List.mem_cons_of_mem _ mem))
    refine ⟨first ++ rest, left'', (List.append_assoc ..).symm, ?_, direction'.trans direction,
      kept'⟩
    rw [← List.singleton_append, Answer.packets_append, packets, packets', direction,
      List.map_append]

/-! ## Every byte has arrived -/

/-- After "not yet" the tail is at hand, and that stays the answer. With every
byte arrived it also says that no block is left, and that the end of the stream
would cut off just the tail. -/
theorem nextPacket_arrived (ahead : r.splitter.Ahead [] left tail)
    (answer : r.nextPacket = (.ok none, r')) :
    left = [] ∧ r'.splitter.buffer = tail ∧
      r'.splitter.truncation = .truncatedFrame tail.length (blockLength? r.direction tail) ∧
      r'.nextPacket = (.ok none, r') := by
  rcases nextPacket_ahead ahead with ⟨answer', kept, arrived⟩ |
    ⟨block, left', more, rfl, answer', -⟩
  · rw [answer] at answer'
    cases answer'
    obtain rfl := arrived rfl
    have only : r.splitter.buffer = tail := by
      have stream := kept.stream
      rw [List.append_nil] at stream
      exact stream
    refine ⟨rfl, only, only ▸ r.splitter.truncation_settled, ?_⟩
    -- The stage is settled already, so that settling it again changes nothing.
    have again := Splitter.next_of_tail kept.coherent (only ▸ kept.cut)
    simp only [nextPacket, nextFrame, again]
    rfl
  · rw [answer] at answer'
    exact absurd (congrArg Prod.fst answer').symm (some_map_ne_none _)

/-- Asking for packets brings no bytes. Calls that only ask, behind the last
chunk of a stream, therefore leave all of it arrived, which is where the stream
is settled. -/
theorem chunks_nextPacket {calls : List Call} (again : ∀ call ∈ calls, call = .nextPacket) :
    Call.chunks calls = [] := by
  induction calls with
  | nil => rfl
  | cons call calls ih =>
    obtain rfl := again call List.mem_cons_self
    exact ih fun c mem => again c (List.mem_cons_of_mem _ mem)

/-- Where the answer is "not yet" and changes nothing, asking again changes nothing. -/
theorem run_nextPacket (answer : r.nextPacket = (.ok none, r)) {calls : List Call}
    (again : ∀ call ∈ calls, call = .nextPacket) :
    (r.run calls).2 = r ∧ Answer.packets (r.run calls).1 = [] := by
  unfold run
  induction calls with
  | nil => exact ⟨rfl, rfl⟩
  | cons call calls ih =>
    obtain rfl := again call List.mem_cons_self
    obtain ⟨last, packets⟩ := ih (fun c mem => again c (List.mem_cons_of_mem _ mem))
    rw [converse_cons]
    simp only [Reassembler.call, answer, last, true_and]
    exact packets

/-- How the end of a stream is received. It is in order where no bytes are at
hand. Where there are some it cuts off a frame, and the refusal says how many
bytes there are of it and how long it would have been, if that is known. -/
theorem finish_outcome (r : Reassembler) :
    r.finish.1 =
      if r.splitter.buffer = [] then .ok () else .error r.splitter.truncation := by
  unfold finish
  cases r.splitter.buffer with
  | nil => rfl
  | cons byte buffer => rfl

/-- A drain asks for packets until there is none. It is defined by the bytes
that are left; here it is one question and the drain of what that leaves. -/
theorem drain_eq (r : Reassembler) :
    r.drain =
      match r.nextPacket with
      | (.ok none, r') => ([], r')
      | (.ok (some packet), r') => (.ok packet :: r'.drain.1, r'.drain.2)
      | (.error error, r') => (.error error :: r'.drain.1, r'.drain.2) := by
  rw [drain]
  split
  · rename_i answer
    simp only [answer]
  · rename_i answer
    simp only [answer]
  · rename_i answer
    simp only [answer]

/-- A drain is over with the first "not yet", and leaves what that leaves. -/
theorem drain_of_none (answer : r.nextPacket = (.ok none, r')) : r.drain = ([], r') := by
  rw [drain_eq, answer]

/-- A drain goes on behind a packet and behind a refusal alike, so a damaged
frame does not keep those behind it. -/
theorem drain_of_some {result : Except FrameError Packet}
    (answer : r.nextPacket = (some <$> result, r')) :
    r.drain = (result :: r'.drain.1, r'.drain.2) := by
  rw [drain_eq, answer]
  cases result with
  | error error => rfl
  | ok packet => rfl

/-- A drain takes the first blocks off and answers them, and is not done before
the last byte that has arrived. The induction is on the blocks ahead, of which
every answer but "not yet" takes the first. -/
theorem drain_takes (ahead : r.splitter.Ahead coming left tail) :
    ∃ taken left', left = taken ++ left' ∧ r.drain.1 = taken.map (Frame.decode r.direction) ∧
      r.drain.2.direction = r.direction ∧ r.drain.2.splitter.Ahead coming left' tail ∧
      (coming = [] → left' = []) := by
  induction left generalizing r with
  | nil =>
    rcases nextPacket_ahead ahead with ⟨answer, kept, -⟩ | ⟨block, left', more, none, -, -⟩
    · rw [drain_of_none answer]
      exact ⟨[], [], rfl, rfl, rfl, kept, fun _ => rfl⟩
    · cases none
  | cons block left ih =>
    rcases nextPacket_ahead ahead with ⟨answer, kept, arrived⟩ |
      ⟨block', left', more, some, answer, kept⟩
    · rw [drain_of_none answer]
      exact ⟨[], block :: left, rfl, rfl, rfl, kept, arrived⟩
    · cases some
      obtain ⟨taken, left', rfl, drained, travels, rest, done⟩ := ih (r := ⟨r.limit, _⟩) kept
      rw [drain_of_some answer]
      exact ⟨block :: taken, left', rfl, congrArg _ drained, travels, rest, done⟩

/-- A drain answers every block ahead. -/
theorem drain_ahead (ahead : r.splitter.Ahead [] left tail) :
    r.drain.1 = left.map (Frame.decode r.direction) := by
  obtain ⟨taken, left', rfl, drained, -, -, done⟩ := drain_takes ahead
  rw [done rfl, List.append_nil, drained]

/-- A chunk for which there is room is drained with what was at hand. -/
theorem feed_cons {chunk : Bytes} (chunks : List Bytes)
    (pushed : r.push chunk = (.ok (), r')) :
    r.feed (chunk :: chunks) =
      (r'.drain.1 ++ (r'.drain.2.feed chunks).1, (r'.drain.2.feed chunks).2) := by
  rw [feed, pushed]

/-- A feed answers every block ahead, so long as there is room. The induction is
on the chunks: after each of them the drain answers the blocks that it has made
whole. -/
theorem feed_ahead {chunks : List Bytes} (ahead : r.splitter.Ahead chunks.flatten left tail)
    (done : chunks.flatten = [] → left = [])
    (room : ∀ size max, .error (.bufferOverflow size max) ∉ (r.feed chunks).1) :
    (r.feed chunks).1 = left.map (Frame.decode r.direction) := by
  induction chunks generalizing r left with
  | nil =>
    rw [done rfl]
    rfl
  | cons chunk chunks ih =>
    by_cases full : r.limit < r.buffered + chunk.length
    · refine absurd ?_ (room (r.buffered + chunk.length) r.limit)
      simp only [feed, push, full, if_true, List.cons_append]
      exact List.mem_cons_self
    · have pushed : r.push chunk = (.ok (), { r with splitter := r.splitter.extend chunk }) := by
        simp only [push, full, if_false]
      rw [feed_cons chunks pushed] at room ⊢
      rw [List.flatten_cons] at ahead
      obtain ⟨taken, left', rfl, drained, travels, rest, done'⟩ :=
        drain_takes (r := ⟨r.limit, r.splitter.extend chunk⟩) ahead.extend
      have later := ih rest done' fun size max mem => room size max (List.mem_append_right _ mem)
      rw [drained, later, travels, List.map_append]
      rfl

end

/-! ## From the first byte -/

variable {direction : Direction} {blocks : List Bytes} {tail : Bytes}

/-- Before the first call all blocks are ahead, none of them at hand yet. -/
theorem ahead_new (settings : StreamSettings) (whole : ∀ block ∈ blocks, IsBlock direction block)
    (cut : IsTail direction tail) :
    (new direction settings).splitter.Ahead (blocks.flatten ++ tail) blocks tail where
  coherent := Splitter.coherent_start direction
  blocks := whole
  cut := cut
  stream := rfl

/-- Chunks that make up a stream of blocks are answered block by block, wherever
the chunks are cut. -/
theorem feed_blocks {settings : StreamSettings} {chunks : List Bytes}
    (whole : ∀ block ∈ blocks, IsBlock direction block) (stream : chunks.flatten = blocks.flatten)
    (room : ∀ size max,
      .error (.bufferOverflow size max) ∉ ((new direction settings).feed chunks).1) :
    ((new direction settings).feed chunks).1 = blocks.map (Frame.decode direction) := by
  have start := ahead_new settings whole (.inl (show ([] : Bytes).length < 3 by decide))
  rw [List.append_nil, ← stream] at start
  refine feed_ahead start (fun nothing => ?_) room
  cases blocks with
  | nil => rfl
  | cons block blocks =>
    -- The first block has bytes, so they have arrived.
    have long := (whole block List.mem_cons_self).1
    have none := congrArg List.length (stream.symm.trans nothing)
    rw [List.flatten_cons, List.length_append, List.length_nil] at none
    omega

/-- The packets of a run are those of the first blocks, in order, whatever is wrong with some of
them and however the stream is cut. Once the answer is "not yet" with no chunk to come, they are
those of all blocks, the tail is at hand, and the end of the stream would cut off just that. A
drain gives whatever has not been asked for. -/
theorem run_blocks {settings : StreamSettings} {calls : List Call}
    (whole : ∀ block ∈ blocks, IsBlock direction block) (cut : IsTail direction tail)
    (reads : ∀ call ∈ calls, call.reads) (stream : Call.chunks calls = blocks.flatten ++ tail)
    (room : ∀ answer ∈ ((new direction settings).run calls).1, answer.overflows = false) :
    let packets := Answer.packets ((new direction settings).run calls).1
    let last := ((new direction settings).run calls).2
    packets <+: blocks.map (Frame.decode direction) ∧
      (∀ before again, calls = before ++ .nextPacket :: again →
        (∀ call ∈ again, call = .nextPacket) →
        ((new direction settings).run before).2.nextPacket.1 = .ok none →
        packets = blocks.map (Frame.decode direction) ∧ last.splitter.buffer = tail ∧
          last.finish.1 =
            if tail = [] then .ok ()
            else .error (.truncatedFrame tail.length (blockLength? direction tail))) ∧
      packets ++ last.drain.1 = blocks.map (Frame.decode direction) := by
  have start := ahead_new settings whole cut
  refine ⟨?_, ?_, ?_⟩
  · rw [← stream, ← List.append_nil (Call.chunks calls)] at start
    obtain ⟨taken, left, rfl, packets, -, -⟩ := run_ahead start reads room
    rw [packets, List.map_append]
    exact List.prefix_append _ _
  · rintro before again rfl asked answer
    have silent : Call.chunks (.nextPacket :: again) = [] := chunks_nextPacket fun call mem => by
      rcases List.mem_cons.mp mem with rfl | mem
      · rfl
      · exact asked call mem
    rw [Call.chunks_append, silent] at stream
    rw [← stream] at start
    -- Behind this "not yet" the run only asks, so what it has left stays to the end.
    set asking := (new direction settings).run before with hasking
    have goes : (new direction settings).run (before ++ .nextPacket :: again) =
        (asking.1 ++ (asking.2.run (.nextPacket :: again)).1,
          (asking.2.run (.nextPacket :: again)).2) := converse_append ..
    have asks : asking.2.run (.nextPacket :: again) =
        (.packet asking.2.nextPacket.1 :: (asking.2.nextPacket.2.run again).1,
          (asking.2.nextPacket.2.run again).2) := converse_cons ..
    rw [goes] at room ⊢
    obtain ⟨taken, left, rfl, packets, same, kept⟩ := run_ahead start
      (fun call mem => reads call (List.mem_append_left _ mem))
      (fun answer mem => room answer (List.mem_append_left _ mem))
    obtain ⟨rfl, only, ending, settled⟩ := nextPacket_arrived kept (Prod.ext answer rfl)
    obtain ⟨last, others⟩ := run_nextPacket settled asked
    rw [asks, answer, last, Answer.packets_append, packets]
    refine ⟨?_, only, ?_⟩
    · dsimp only
      rw [Answer.packets_none, others, List.append_nil, List.append_nil]
      rfl
    · rw [finish_outcome, only, ending, same]
      rfl
  · rw [← stream, ← List.append_nil (Call.chunks calls)] at start
    obtain ⟨taken, left, rfl, packets, same, kept⟩ := run_ahead start reads room
    rw [packets, drain_ahead kept, same, List.map_append]
    rfl

/-- An intact stop and a damaged zero offset, cut inside the type id, inside the body and behind
the second frame, with three bytes of the next. -/
theorem run_blocks_cut :
    let blocks : List Bytes := [[85, 170, 2, 2, 1, 151, 189], [85, 170, 9, 2, 57, 0]]
    let before : List Call :=
      [.push [85], .nextPacket, .push [170, 2, 2], .nextPacket,
        .push [1, 151, 189, 85, 170, 9, 2, 57, 0, 85, 170], .nextPacket, .push [], .push [9],
        .nextPacket]
    let answered := (new .masterToBoard {}).run (before ++ [.nextPacket, .nextPacket])
    (∀ block ∈ blocks, IsBlock .masterToBoard block) ∧ IsTail .masterToBoard [85, 170, 9] ∧
      (∀ answer ∈ answered.1, answer.overflows = false) ∧
      Answer.packets answered.1 = blocks.map (Frame.decode .masterToBoard) ∧
      answered.2.splitter.buffer = [85, 170, 9] ∧
      answered.2.finish.1 = .error (.truncatedFrame 3 (some 6)) := by
  intro blocks before answered
  have whole : ∀ block ∈ blocks, IsBlock .masterToBoard block := by
    intro block mem
    rcases List.mem_cons.mp mem with rfl | mem
    · exact ⟨by decide, _, rfl, rfl⟩
    · rw [List.mem_singleton.mp mem]
      exact ⟨by decide, _, rfl, rfl⟩
  have cut : IsTail .masterToBoard [85, 170, 9] := .inr ⟨_, rfl, by decide⟩
  have room : ∀ answer ∈ answered.1, answer.overflows = false := by decide
  exact ⟨whole, cut, room, (run_blocks whole cut (by decide) rfl room).2.1 before [.nextPacket] rfl
    (by decide) (by decide)⟩

end MotionLink.Reassembler

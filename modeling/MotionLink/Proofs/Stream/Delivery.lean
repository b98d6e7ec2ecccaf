import Mathlib
import MotionLink.Proofs.Stream.Room

/-!
# A stream of blocks, read frame by frame

A reader before a stream of blocks and then a tail delivers exactly the blocks,
whatever the pieces in which its source gives them and whatever fails between
the pieces. `FrameReader.Awaits` is the invariant: what is at hand and what the
source has in store make up the blocks not delivered yet. One turn keeps it or
answers (`Awaits.turn`), so a call answers in one of three ways
(`FrameReader.Outcome`): with the first block, with a failure of the source that
leaves everything as it was, or, when no block is left, with the end of the
stream.
-/

namespace MotionLink

/-- Without a frame, the bytes at hand are a tail: neither a whole block nor an
unknown type would have been left in front. -/
theorem Splitter.Coherent.isTail {s : Splitter} (coherent : s.Coherent)
    (answer : s.next.1 = .ok none) : IsTail s.direction s.buffer := by
  rcases front_cases s.direction s.buffer with cut | ⟨block, more, whole, front⟩ |
    ⟨probed, error, unknown⟩
  · exact cut
  · rw [next_of_block coherent whole front] at answer
    cases answer
  · rw [next_of_unknown coherent probed unknown] at answer
    cases answer

/-- Nothing is ahead of a splitter that has forgotten all bytes of a stream that has ended. -/
theorem Splitter.ahead_nothing {s : Splitter} {coming : Bytes} (coherent : s.Coherent)
    (empty : s.buffer = []) (ended : coming = []) : s.Ahead coming [] [] where
  coherent := coherent
  blocks := nofun
  cut := .inl (show 0 < 3 by decide)
  stream := by
    rw [empty, ended]
    rfl

/-- How a stream with this tail ends. -/
def ending (direction : Direction) (tail : Bytes) : FrameError :=
  if tail = [] then .connectionClosed
  else .truncatedFrame tail.length (blockLength? direction tail)

/-- What is made of the end of a stream: how it ended, and no bytes at hand. A
reader that is asked again finds its stream ended and closed. -/
theorem Reassembler.arrive_end {r : Reassembler} (settled : r.splitter.settled = r.splitter) :
    (r.arrive (.ok [])).1 = some (ending r.direction r.splitter.buffer) ∧
      (r.arrive (.ok [])).2.direction = r.direction ∧
      (r.arrive (.ok [])).2.splitter.buffer = [] := by
  have truncation := r.splitter.truncation_settled
  rw [settled] at truncation
  unfold Reassembler.arrive finish ending
  cases bytes : r.splitter.buffer with
  | nil => exact ⟨rfl, rfl, bytes⟩
  | cons byte buffer =>
    refine ⟨?_, rfl, rfl⟩
    rw [truncation, bytes]
    rfl

namespace FrameReader

/-! ## The invariant -/

/-- A reader before the blocks `left` and then `tail`. -/
structure Awaits (direction : Direction) (settings : StreamSettings) (r : FrameReader)
    (left : List Bytes) (tail : Bytes) : Prop where
  travels : r.direction = direction
  fits : r.Fits settings
  ahead : r.reassembler.splitter.Ahead r.source.coming left tail
  ends : EndsLast r.source.events

/-- The three ways in which a call answers, with what is left of the stream and of the failures to
report. -/
inductive Outcome (direction : Direction) (settings : StreamSettings) (left : List Bytes)
    (tail : Bytes) (reported : List IoFailure) : Except FrameError Bytes → FrameReader → Prop where
  | block {block : Bytes} {left' : List Bytes} {r : FrameReader} (first : left = block :: left')
      (rest : r.Awaits direction settings left' tail) (same : r.source.reported = reported) :
      Outcome direction settings left tail reported (.ok block) r
  | failure {failure : IoFailure} {r : FrameReader} (rest : r.Awaits direction settings left tail)
      (next : reported = failure :: r.source.reported)
      (drained : IsTail direction r.reassembler.splitter.buffer) :
      Outcome direction settings left tail reported (.error (.io failure)) r
  | ended {r : FrameReader} (none : left = []) (rest : r.Awaits direction settings [] [])
      (same : r.source.reported = reported) :
      Outcome direction settings left tail reported (.error (ending direction tail)) r

section

variable {direction : Direction} {settings : StreamSettings} {r : FrameReader} {left : List Bytes}
  {tail : Bytes}

/-- Where no frame is at hand, an interruption and what arrives leave the stream
ahead as it was. Another failure is reported, and so is the end. The cases are
those of the read, and the invariant says in each of them what the source has
left. -/
theorem Awaits.turn_of_none (awaits : r.Awaits direction settings left tail)
    (next : r.reassembler.splitter.next = (.ok none, r.reassembler.splitter.settled))
    (settled : r.reassembler.splitter.settled.Ahead r.source.coming left tail)
    (arrived : r.source.coming = [] → left = []) :
    match r.turn with
    | (none, r') => r'.Awaits direction settings left tail ∧ r'.source.reported = r.source.reported
    | (some answer, r') => Outcome direction settings left tail r.source.reported answer r' := by
  obtain ⟨rfl, fits, ahead, ends⟩ := awaits
  have kept := fits.turn.1
  have cut := ahead.coherent.isTail (congrArg Prod.fst next)
  have found : r.reassembler.nextFrame =
      (.ok none, ⟨r.reassembler.limit, r.reassembler.splitter.settled⟩) := by
    rw [Reassembler.nextFrame, next]
  obtain ⟨ends', taken⟩ := Source.read_takes r.chunk_pos ends
  rw [FrameReader.turn_of_none found] at kept ⊢
  cases arrival : (r.source.read r.chunk).1 with
  | error failure =>
    simp only [arrival] at taken kept ⊢
    obtain ⟨coming, reported⟩ := taken
    rw [coming] at settled
    by_cases interrupted : failure.kind = .interrupted
    · simp only [ReadEvent.reported?, interrupted, if_true] at reported
      simp only [Reassembler.arrive, interrupted, if_true] at kept ⊢
      exact ⟨⟨rfl, kept, settled, ends'⟩, reported.symm⟩
    · simp only [ReadEvent.reported?, interrupted, if_false] at reported
      simp only [Reassembler.arrive, interrupted, if_false] at kept ⊢
      exact .failure ⟨rfl, kept, settled, ends'⟩ reported cut
  | ok bytes =>
    simp only [arrival] at taken kept ⊢
    obtain ⟨coming, reported, last⟩ := taken
    cases bytes with
    | nil =>
      -- A reader asks for something, so what gave nothing has ended, and the tail is all there is.
      have ended := last rfl
      obtain rfl := arrived ended
      have whole : r.reassembler.splitter.buffer = tail := by
        have stream := ahead.stream
        rw [ended, List.append_nil] at stream
        exact stream
      subst whole
      obtain ⟨answer, travels, empty⟩ :=
        Reassembler.arrive_end (r := ⟨r.reassembler.limit, r.reassembler.splitter.settled⟩) rfl
      have nothing := Splitter.ahead_nothing kept.bounded.coherent empty (coming.symm.trans ended)
      simp only [answer, Option.map_some]
      exact .ended rfl ⟨travels, kept, nothing, ends'⟩ reported.symm
    | cons byte bytes =>
      rw [coming] at settled
      rw [fits.arrive_chunk cut arrival] at kept ⊢
      exact ⟨⟨rfl, kept, settled.extend, ends'⟩, reported.symm⟩

/-- A turn goes on before the same stream, or answers. With a block at hand it
answers at once and does not read. -/
theorem Awaits.turn (awaits : r.Awaits direction settings left tail) :
    match r.turn with
    | (none, r') => r'.Awaits direction settings left tail ∧ r'.source.reported = r.source.reported
    | (some answer, r') => Outcome direction settings left tail r.source.reported answer r' := by
  rcases awaits.ahead.next with ⟨next, settled, arrived⟩ | ⟨block, left', more, rfl, next, rest⟩
  · exact awaits.turn_of_none next settled arrived
  · obtain ⟨rfl, fits, -, ends⟩ := awaits
    have kept := fits.turn.1
    have found : r.reassembler.nextFrame = (.ok (some block),
        ⟨r.reassembler.limit, ⟨r.reassembler.splitter.direction, .awaitingHeader, more⟩⟩) := by
      rw [Reassembler.nextFrame, next]
    rw [turn_of_frame found] at kept ⊢
    exact .block rfl ⟨rfl, kept, rest, ends⟩ rfl

/-- A call answers in one of the three ways. It is as many turns as it takes,
and each of them but the last leaves the stream ahead as it was. -/
theorem Awaits.readFrame (awaits : r.Awaits direction settings left tail) :
    Outcome direction settings left tail r.source.reported r.readFrame.1 r.readFrame.2 := by
  refine readFrame_rule
    (fun r' => r'.Awaits direction settings left tail ∧ r'.source.reported = r.source.reported)
    (Outcome direction settings left tail r.source.reported) ?_ ?_ ⟨awaits, rfl⟩
  · rintro before after ⟨awaits, same⟩ step
    have kept := awaits.turn
    rw [step] at kept
    exact ⟨kept.1, kept.2.trans same⟩
  · rintro before after answer ⟨awaits, same⟩ step
    have outcome := awaits.turn
    rw [step, same] at outcome
    exact outcome

/-! ## Runs -/

theorem Outcome.travels {reported : List IoFailure} {answer : Except FrameError Bytes}
    (outcome : Outcome direction settings left tail reported answer r) :
    r.direction = direction := by
  cases outcome with
  | block _ rest => exact rest.travels
  | failure rest => exact rest.travels
  | ended _ rest => exact rest.travels

end

/-- The failure of the source that an answer reports. -/
def Answer.failure? (answer : Answer) : Option IoFailure :=
  match answer.error? with
  | some (.io failure) => some failure
  | _ => none

/-- The answers that report no failure of the source, each with its call. -/
def settled (calls : List Call) (answers : List Answer) : List (Call × Answer) :=
  (calls.zip answers).filter (·.2.failure?.isNone)

/-- What calls are to deliver of a stream: its blocks, then its end, and from then on that it is
closed. -/
def deliveries (direction : Direction) : List Bytes → Bytes → List Call → List Answer
  | _, _, [] => []
  | block :: left, tail, call :: calls =>
    call.answer direction (.ok block) :: deliveries direction left tail calls
  | [], tail, call :: calls =>
    call.answer direction (.error (ending direction tail)) :: deliveries direction [] [] calls

/-- The error behind an answer is the one it was made of, whatever was asked
for. -/
theorem error?_answer_error (direction : Direction) (error : FrameError) (call : Call) :
    (call.answer direction (.error error)).error? = some error := by
  cases call <;> rfl

theorem failure?_answer_failure (direction : Direction) (failure : IoFailure) (call : Call) :
    (call.answer direction (.error (.io failure))).failure? = some failure := by
  rw [Answer.failure?, error?_answer_error]

/-- The end of a stream is no failure of the source, also where it cuts off a
frame. -/
theorem failure?_answer_ending (direction : Direction) (tail : Bytes) (call : Call) :
    (call.answer direction (.error (ending direction tail))).failure? = none := by
  rw [Answer.failure?, error?_answer_error, ending]
  by_cases empty : tail = []
  · rw [if_pos empty]
  · rw [if_neg empty]

/-- What a call makes of a block reports no failure of the source. Where a block
cannot be decoded, the errors are those of frames. -/
theorem failure?_answer_block (direction : Direction) (block : Bytes) (call : Call) :
    (call.answer direction (.ok block)).failure? = none := by
  unfold Answer.failure?
  cases failed : (call.answer direction (.ok block)).error? with
  | none => rfl
  | some error =>
    rcases Call.error?_answer failed with refused | ofFrame
    · cases refused
    · cases error <;> first | rfl | cases ofFrame

/-- An answer that reports no failure of the source is kept with its call. These
are the answers that are compared with what the stream is to deliver, in the
order of the calls. -/
theorem settled_of_none {answer : Answer} (kept : answer.failure? = none) (call : Call)
    (calls : List Call) (answers : List Answer) :
    settled (call :: calls) (answer :: answers) = (call, answer) :: settled calls answers := by
  rw [settled, List.zip_cons_cons, List.filter_cons_of_pos (by rw [kept]; rfl), settled]

/-- An answer that reports a failure is left out together with its call. The
call has taken nothing off the stream, so the next one stands before the same
block. -/
theorem settled_of_some {answer : Answer} {failure : IoFailure}
    (reports : answer.failure? = some failure) (call : Call) (calls : List Call)
    (answers : List Answer) :
    settled (call :: calls) (answer :: answers) = settled calls answers := by
  rw [settled, List.zip_cons_cons, List.filter_cons_of_neg (by rw [reports]; exact nofun), settled]

/-- Every answer is settled or reports a failure, so of the calls of a run as
many are settled as do not meet a failure. -/
theorem length_settled {calls : List Call} {answers : List Answer}
    (each : answers.length = calls.length) :
    (settled calls answers).length + (answers.filterMap Answer.failure?).length =
      calls.length := by
  induction calls generalizing answers with
  | nil =>
    rw [List.length_eq_zero_iff.mp each]
    rfl
  | cons call calls ih =>
    cases answers with
    | nil => cases each
    | cons answer answers =>
      have rest := ih (Nat.succ.inj each)
      cases found : answer.failure? with
      | none =>
        rw [settled_of_none found, List.filterMap_cons_none found, List.length_cons,
          List.length_cons]
        omega
      | some failure =>
        rw [settled_of_some found, List.filterMap_cons_some found, List.length_cons,
          List.length_cons]
        omega

section

variable {direction : Direction} {settings : StreamSettings} {r : FrameReader} {left : List Bytes}
  {tail : Bytes}

/-- A call makes of the next block what it makes of a frame, and of a failure
the report of that failure. -/
theorem Awaits.call (awaits : r.Awaits direction settings left tail) (call : Call) :
    ∃ answer, r.call call = (call.answer direction answer, r.readFrame.2) ∧
      Outcome direction settings left tail r.source.reported answer r.readFrame.2 := by
  have outcome := awaits.readFrame
  refine ⟨r.readFrame.1, ?_, outcome⟩
  rw [call_eq, outcome.travels]

/-- A run delivers what is ahead, reports the failures of the source in order,
and stops before the rest. The induction is on the calls. One that meets a
failure does not move the stream, one that gets a block moves it by that block,
and one that meets the end leaves nothing ahead. -/
theorem Awaits.run (calls : List Call) (awaits : r.Awaits direction settings left tail) :
    let answered := settled calls (r.run calls).1
    answered.map Prod.snd = deliveries direction left tail (answered.map Prod.fst) ∧
      r.source.reported =
        (r.run calls).1.filterMap Answer.failure? ++ (r.run calls).2.source.reported ∧
      ∃ left' tail', (r.run calls).2.Awaits direction settings left' tail' ∧
        (answered.length ≤ left.length → left' = left.drop answered.length ∧ tail' = tail) := by
  unfold FrameReader.run
  induction calls generalizing r left tail with
  | nil => exact ⟨rfl, rfl, left, tail, awaits, fun _ => ⟨rfl, rfl⟩⟩
  | cons call calls ih =>
    obtain ⟨answer, step, outcome⟩ := awaits.call call
    rw [converse_cons, step]
    dsimp only
    cases outcome with
    | @block block left' _ first rest same =>
      subst first
      obtain ⟨delivered, reported, left'', tail', last, count⟩ := ih rest
      have kept := failure?_answer_block direction block call
      rw [settled_of_none kept, List.filterMap_cons_none kept]
      refine ⟨?_, same.symm.trans reported, left'', tail', last, fun few => ?_⟩
      · rw [List.map_cons, List.map_cons, deliveries, delivered]
      · exact count (Nat.le_of_succ_le_succ few)
    | @failure failure _ rest next drained =>
      obtain ⟨delivered, reported, left', tail', last, count⟩ := ih rest
      have reports := failure?_answer_failure direction failure call
      rw [settled_of_some reports, List.filterMap_cons_some reports]
      refine ⟨delivered, ?_, left', tail', last, count⟩
      rw [next, reported, List.cons_append]
    | ended none rest same =>
      subst none
      obtain ⟨delivered, reported, left', tail', last, -⟩ := ih rest
      have kept := failure?_answer_ending direction tail call
      rw [settled_of_none kept, List.filterMap_cons_none kept]
      refine ⟨?_, same.symm.trans reported, left', tail', last, fun few => ?_⟩
      · rw [List.map_cons, List.map_cons, deliveries, delivered]
      · exact absurd few (Nat.not_succ_le_zero _)

end

/-! ## From the first byte -/

variable {direction : Direction} {blocks : List Bytes} {tail : Bytes} {events : List ReadEvent}

/-- Before the first call all blocks are ahead, in the store of the source. -/
theorem awaits_new (settings : StreamSettings) (whole : ∀ block ∈ blocks, IsBlock direction block)
    (cut : IsTail direction tail) (stream : events.flatMap ReadEvent.bytes = blocks.flatten ++ tail)
    (ends : EndsLast events) :
    (new direction settings events).Awaits direction settings blocks tail where
  travels := rfl
  fits := fits_new direction settings events
  ahead := ⟨Splitter.coherent_start direction, whole, cut, stream⟩
  ends := ends

/-- The answers of a run, without the failures of the source, are what its calls make of the first
blocks, in order, and after the last block of the end that the tail gives the stream. Every other
call reports a failure, in order and each at most once. Until the end no byte is lost: what was not
delivered is at hand or still in store. A call that reports a failure leaves no whole frame at
hand. -/
theorem run_stream {settings : StreamSettings} (whole : ∀ block ∈ blocks, IsBlock direction block)
    (cut : IsTail direction tail) (stream : events.flatMap ReadEvent.bytes = blocks.flatten ++ tail)
    (ends : EndsLast events) (calls : List Call) :
    let answers := ((new direction settings events).run calls).1
    let last := ((new direction settings events).run calls).2
    let answered := settled calls answers
    answered.map Prod.snd = deliveries direction blocks tail (answered.map Prod.fst) ∧
      answers.filterMap Answer.failure? <+: events.filterMap ReadEvent.reported? ∧
      answered.length + (answers.filterMap Answer.failure?).length = calls.length ∧
      (answered.length ≤ blocks.length →
        (blocks.take answered.length).flatten ++ last.reassembler.splitter.buffer ++
          last.source.coming = blocks.flatten ++ tail) ∧
      ∀ call, (last.call call).1.failure? ≠ none →
        IsTail direction (last.call call).2.reassembler.splitter.buffer := by
  intro answers last answered
  obtain ⟨delivered, reported, left', tail', awaits, count⟩ :=
    (awaits_new settings whole cut stream ends).run calls
  refine ⟨delivered, ⟨_, reported.symm⟩, ?_, ?_, ?_⟩
  · exact length_settled (length_converse FrameReader.call _ calls)
  · intro few
    obtain ⟨rfl, rfl⟩ := count few
    rw [List.append_assoc, awaits.ahead.stream, ← List.append_assoc, ← List.flatten_append,
      List.take_append_drop]
  · intro call fails
    obtain ⟨answer, step, outcome⟩ := awaits.call call
    rw [step] at fails ⊢
    cases outcome with
    | block => exact absurd (failure?_answer_block ..) fails
    | failure _ _ drained => exact drained
    | ended => exact absurd (failure?_answer_ending ..) fails

/-- An intact stop and a damaged zero offset, with three bytes of the next frame. The reader asks
for single bytes, is interrupted inside the first type id and has to wait inside the first body;
behind the end of the stream its source fails once more. -/
theorem run_stream_cut :
    let blocks : List Bytes := [[85, 170, 2, 2, 1, 151, 189], [85, 170, 9, 2, 57, 0]]
    let events : List ReadEvent :=
      [.data [85], .failure ⟨.interrupted, none⟩, .data [170, 2, 2, 1, 151],
        .failure ⟨.wouldBlock, none⟩, .data [189, 85, 170, 9, 2, 57, 0, 85, 170], .data [9],
        .data [], .failure ⟨.timedOut, none⟩]
    let calls : List Call := [.packet, .frame, .command, .packet, .packet, .frame]
    let answers := ((new .masterToBoard ⟨1024, 0⟩ events).run calls).1
    (∀ block ∈ blocks, IsBlock .masterToBoard block) ∧ IsTail .masterToBoard [85, 170, 9] ∧
      EndsLast events ∧
      (settled calls answers).map Prod.snd =
        deliveries .masterToBoard blocks [85, 170, 9] [.frame, .command, .packet, .frame] ∧
      answers.map Answer.error? =
        [some (.io ⟨.wouldBlock, none⟩), none,
          some (.checksumMismatch (.command .setZeroOffset) 57 44345),
          some (.truncatedFrame 3 (some 6)), some (.io ⟨.timedOut, none⟩),
          some .connectionClosed] := by
  intro blocks events calls answers
  have whole : ∀ block ∈ blocks, IsBlock .masterToBoard block := by
    intro block mem
    rcases List.mem_cons.mp mem with rfl | mem
    · exact ⟨by decide, _, rfl, rfl⟩
    · rw [List.mem_singleton.mp mem]
      exact ⟨by decide, _, rfl, rfl⟩
  have cut : IsTail .masterToBoard [85, 170, 9] := .inr ⟨_, rfl, by decide⟩
  have ends : EndsLast events := by decide
  have asked : (settled calls answers).map Prod.fst = [.frame, .command, .packet, .frame] := by
    decide +kernel
  have delivered := (@run_stream _ _ _ _ ⟨1024, 0⟩ whole cut rfl ends calls).1
  exact ⟨whole, cut, ends, asked ▸ delivered, by decide +kernel⟩

end FrameReader

end MotionLink

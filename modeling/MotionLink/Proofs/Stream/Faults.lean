import Mathlib
import MotionLink.Proofs.Stream.Delivery

/-!
# Failures strewn into a script

Two readers of the same stream, of which one meets more failures of its source
than the other, give the same frames, packets and errors. The first is never
more than the turns of one call ahead: between its calls it stands where the
second stands in the midst of a call (`FrameReader.Midway`), with the same bytes
at hand and the same events to come but for the failures not met yet
(`FrameReader.Follows`). A turn of the first meets such a failure and leaves the
second where it is, or both turn alike (`Follows.turn`). A failure therefore
costs an answer of its own, or none where the read is repeated, and no byte.

The search for a frame may be repeated because its answer follows from the bytes
at hand (`Splitter.Coherent.next_congr`). Nothing here depends on what the bytes
are or on where the stream ends.
-/

namespace MotionLink

/-! ## One list strewn into another -/

/-- `mixed` is `kept` with the elements of `added` put in somewhere, both in order. -/
inductive Strewn {α : Type} : List α → List α → List α → Prop where
  | nil : Strewn [] [] []
  | keep {kept added mixed : List α} (a : α) (rest : Strewn kept added mixed) :
      Strewn (a :: kept) added (a :: mixed)
  | add {kept added mixed : List α} (a : α) (rest : Strewn kept added mixed) :
      Strewn kept (a :: added) (a :: mixed)

namespace Strewn

variable {α β : Type} {kept added mixed : List α}

theorem length_eq (strewn : Strewn kept added mixed) :
    mixed.length = kept.length + added.length := by
  induction strewn with
  | nil => rfl
  | keep a _ ih => rw [List.length_cons, List.length_cons, ih, Nat.add_right_comm]
  | add a _ ih => rw [List.length_cons, List.length_cons, ih, Nat.add_assoc]

/-- A selection from the mixed list is the selections from both, mixed in the
same way. -/
theorem filterMap (f : α → Option β) (strewn : Strewn kept added mixed) :
    Strewn (kept.filterMap f) (added.filterMap f) (mixed.filterMap f) := by
  induction strewn with
  | nil => exact .nil
  | keep a _ ih =>
    cases answer : f a with
    | none => rwa [List.filterMap_cons_none answer, List.filterMap_cons_none answer]
    | some b =>
      rw [List.filterMap_cons_some answer, List.filterMap_cons_some answer]
      exact .keep b ih
  | add a _ ih =>
    cases answer : f a with
    | none => rwa [List.filterMap_cons_none answer, List.filterMap_cons_none answer]
    | some b =>
      rw [List.filterMap_cons_some answer, List.filterMap_cons_some answer]
      exact .add b ih

/-- Added elements that a filter drops are not seen behind it. -/
theorem filter_eq {p : α → Bool} (strewn : Strewn kept added mixed)
    (dropped : ∀ a ∈ added, p a = false) : mixed.filter p = kept.filter p := by
  induction strewn with
  | nil => rfl
  | keep a _ ih => rw [List.filter_cons, List.filter_cons, ih dropped]
  | add a _ ih =>
    rw [List.filter_cons_of_neg (by rw [dropped a List.mem_cons_self]; exact Bool.noConfusion),
      ih fun b later => dropped b (List.mem_cons_of_mem a later)]

/-- Added elements that stand for nothing do not show. -/
theorem flatMap_eq {f : α → List β} (strewn : Strewn kept added mixed)
    (empty : ∀ a ∈ added, f a = []) : mixed.flatMap f = kept.flatMap f := by
  induction strewn with
  | nil => rfl
  | keep a _ ih => rw [List.flatMap_cons, List.flatMap_cons, ih empty]
  | add a _ ih =>
    rw [List.flatMap_cons, empty a List.mem_cons_self, List.nil_append,
      ih fun b later => empty b (List.mem_cons_of_mem a later)]

theorem eq_of_nothing (strewn : Strewn kept [] mixed) : mixed = kept := by
  have all := strewn.filter_eq (p := fun _ => true) nofun
  rwa [List.filter_true, List.filter_true] at all

end Strewn

/-! ## Scripts with more failures -/

/-- Each event fails. -/
def AllFail (events : List ReadEvent) : Prop :=
  ∀ event ∈ events, ∃ failure, event = .failure failure

/-- The failures of events that are reported. -/
def reportedOf (events : List ReadEvent) : List IoFailure := events.filterMap ReadEvent.reported?

theorem AllFail.bytes {events : List ReadEvent} (fail : AllFail events) :
    ∀ event ∈ events, event.bytes = [] := by
  intro event member
  obtain ⟨failure, rfl⟩ := fail event member
  rfl

/-- A read meets a failure that was added, or gives the same from both scripts.
A read looks at the first event only, so the cases are what stands first in the
mixed script. -/
theorem Source.read_strewn {s s' : Source} {added : List ReadEvent}
    (strewn : Strewn s.events added s'.events) (fail : AllFail added) (wanted : Nat) :
    (∃ failure added', added = .failure failure :: added' ∧ (s'.read wanted).1 = .error failure ∧
      Strewn s.events added' (s'.read wanted).2.events) ∨
    ((s'.read wanted).1 = (s.read wanted).1 ∧
      Strewn (s.read wanted).2.events added (s'.read wanted).2.events) := by
  obtain ⟨events, requests⟩ := s
  obtain ⟨events', requests'⟩ := s'
  cases strewn with
  | nil => exact .inr ⟨rfl, .nil⟩
  | add event rest =>
    obtain ⟨failure, rfl⟩ := fail event List.mem_cons_self
    exact .inl ⟨failure, _, rfl, rfl, rest⟩
  | keep event rest =>
    cases event with
    | failure failure => exact .inr ⟨rfl, rest⟩
    | data bytes =>
      refine .inr ?_
      by_cases few : bytes.length ≤ wanted
      · simp only [Source.read, few, if_true, true_and]
        exact rest
      · simp only [Source.read, few, if_false, true_and]
        exact .keep _ rest

/-! ## The same bytes at hand -/

/-- The next answer follows from the bytes at hand. Two coherent splitters that
hold the same bytes may be in different stages, and still find the same and
leave the same. -/
theorem Splitter.Coherent.next_congr {s s' : Splitter} (coherent : s.Coherent)
    (coherent' : s'.Coherent) (travels : s'.direction = s.direction)
    (buffer : s'.buffer = s.buffer) : s'.next = s.next := by
  obtain ⟨direction, stage, bytes⟩ := s
  obtain ⟨direction', stage', bytes'⟩ := s'
  obtain rfl : direction' = direction := travels
  obtain rfl : bytes' = bytes := buffer
  rcases front_cases direction' bytes' with cut | ⟨block, more, whole, front⟩ |
    ⟨probed, error, unknown⟩
  · rw [next_of_tail coherent cut, next_of_tail coherent' cut]
    rfl
  · rw [next_of_block coherent whole front, next_of_block coherent' whole front]
  · rw [next_of_unknown coherent probed unknown, next_of_unknown coherent' probed unknown]

/-- What is made of an arrival without an answer: it is taken in, or the read is
repeated. There is no third way, since the end of the stream and a refused chunk
are answers. -/
theorem Reassembler.arrive_quiet {r : Reassembler} {arrival : Except IoFailure Bytes}
    (quiet : (r.arrive arrival).1 = none) :
    (∃ failure, arrival = .error failure ∧ (ReadEvent.failure failure).reported? = none ∧
      (r.arrive arrival).2 = r) ∨
    ∃ bytes, arrival = .ok bytes ∧
      (r.arrive arrival).2 = { r with splitter := r.splitter.extend bytes } := by
  cases arrival with
  | error failure =>
    refine .inl ⟨failure, rfl, ?_, rfl⟩
    rw [Reassembler.arrive] at quiet
    rw [ReadEvent.reported?]
    split at quiet
    · rename_i interrupted
      exact if_pos interrupted
    · cases quiet
  | ok bytes =>
    refine .inr ⟨bytes, rfl, ?_⟩
    cases bytes with
    | nil =>
      rcases r.finish_cases with finish | finish <;> rw [Reassembler.arrive, finish] at quiet <;>
        cases quiet
    | cons byte bytes =>
      by_cases full : r.limit < r.buffered + (byte :: bytes).length
      · simp only [Reassembler.arrive, push, full, if_true] at quiet
        cases quiet
      · simp only [Reassembler.arrive, push, full, if_false]

namespace FrameReader

/-- The bytes at hand and those still to come. -/
def pending (r : FrameReader) : Bytes := r.reassembler.splitter.buffer ++ r.source.coming

/-- Where no frame is found, the bytes at hand stay, and the search may be repeated. -/
theorem held_of_none {settings : StreamSettings} {r : FrameReader} {held : Reassembler}
    (fits : r.Fits settings) (next : r.reassembler.nextFrame = (.ok none, held)) :
    held = ⟨r.reassembler.limit, r.reassembler.splitter.settled⟩ := by
  have coherent := fits.bounded.coherent
  have cut := coherent.isTail (congrArg Prod.fst next)
  rw [Reassembler.nextFrame, Splitter.next_of_tail coherent cut] at next
  exact (Prod.mk.inj next).2.symm

/-! ## One turn of two readers -/

/-- The second reader is the first but for the failures that are added to its script. -/
structure Follows (settings : StreamSettings) (added : List ReadEvent) (r r' : FrameReader) :
    Prop where
  fits : r.Fits settings
  fits' : r'.Fits settings
  travels : r'.direction = r.direction
  buffer : r'.reassembler.splitter.buffer = r.reassembler.splitter.buffer
  strewn : Strewn r.source.events added r'.source.events
  fail : AllFail added

section

variable {settings : StreamSettings} {added : List ReadEvent} {r r' : FrameReader}

/-- Both readers have the same bytes before them, at hand and still to come. -/
theorem Follows.pending (follows : Follows settings added r r') : r'.pending = r.pending := by
  rw [FrameReader.pending, FrameReader.pending, follows.buffer, Source.coming, Source.coming,
    follows.strewn.flatMap_eq follows.fail.bytes]

/-- The second has the failures of the first to report, with the added ones
strewn in. -/
theorem Follows.reported (follows : Follows settings added r r') :
    Strewn r.source.reported (reportedOf added) r'.source.reported :=
  follows.strewn.filterMap ReadEvent.reported?

/-- Both readers find the same frame, or none. -/
theorem Follows.nextFrame (follows : Follows settings added r r') :
    r'.reassembler.nextFrame = r.reassembler.nextFrame := by
  have next := follows.fits.bounded.coherent.next_congr follows.fits'.bounded.coherent
    follows.travels follows.buffer
  have limit : r'.reassembler.limit = r.reassembler.limit :=
    follows.fits'.limit.trans follows.fits.limit.symm
  rw [Reassembler.nextFrame, Reassembler.nextFrame, next, limit]

/-- Both ask for the same number of bytes, which the settings alone decide. -/
theorem Follows.chunk (follows : Follows settings added r r') : r'.chunk = r.chunk := by
  rw [follows.fits.chunk, follows.fits'.chunk, follows.fits.limit, follows.fits'.limit]

/-- The second reader meets an added failure, which leaves the first where it
is, or both turn alike. Where both turn alike they find the same frame, or make
the same of the same read. -/
theorem Follows.turn (follows : Follows settings added r r') :
    (∃ failure added', added = .failure failure :: added' ∧
      r'.turn.1 = (ReadEvent.failure failure).reported?.map (.error ∘ .io) ∧
      Follows settings added' r r'.turn.2) ∨
    (r'.turn.1 = r.turn.1 ∧ Follows settings added r.turn.2 r'.turn.2) := by
  have kept := follows.fits.turn.1
  have kept' := follows.fits'.turn.1
  cases next : r.reassembler.nextFrame with
  | mk answer held =>
    have next' := follows.nextFrame.trans next
    cases answer with
    | error error =>
      rw [turn_of_error next] at kept ⊢
      rw [turn_of_error next'] at kept' ⊢
      exact .inr ⟨rfl, kept, kept', rfl, rfl, follows.strewn, follows.fail⟩
    | ok frame? =>
      cases frame? with
      | some frame =>
        rw [turn_of_frame next] at kept ⊢
        rw [turn_of_frame next'] at kept' ⊢
        exact .inr ⟨rfl, kept, kept', rfl, rfl, follows.strewn, follows.fail⟩
      | none =>
        rw [turn_of_none next] at kept ⊢
        rw [turn_of_none next'] at kept' ⊢
        simp only [follows.chunk] at kept' ⊢
        rcases Source.read_strewn follows.strewn follows.fail r.chunk with
          ⟨failure, added', rfl, met, rest⟩ | ⟨same, rest⟩
        -- The added failure is met by the second alone. It may have learned the layout on the way,
        -- but `Follows` compares the bytes at hand only.
        · refine .inl ⟨failure, added', rfl, ?_, follows.fits, kept', ?_, ?_, rest, ?_⟩
          · rw [met, Reassembler.arrive, ReadEvent.reported?]
            split <;> rfl
          · rw [met, Reassembler.arrive, held_of_none follows.fits next]
            rfl
          · rw [met, Reassembler.arrive, held_of_none follows.fits next]
            rfl
          · exact fun event later => follows.fail event (List.mem_cons_of_mem _ later)
        · rw [same] at kept' ⊢
          exact .inr ⟨rfl, kept, kept', rfl, rfl, rest, follows.fail⟩

end

/-! ## In the midst of a call -/

/-- The second reader is the first after some turns of a call that has not answered yet. -/
structure Midway (r now : FrameReader) : Prop where
  answers : now.readFrame = r.readFrame
  travels : now.direction = r.direction
  pending : now.pending = r.pending
  reported : now.source.reported = r.source.reported

theorem Midway.refl (r : FrameReader) : r.Midway r := ⟨rfl, rfl, rfl, rfl⟩

theorem Midway.trans {r now later : FrameReader} (first : r.Midway now)
    (second : now.Midway later) : r.Midway later where
  answers := second.answers.trans first.answers
  travels := second.travels.trans first.travels
  pending := second.pending.trans first.pending
  reported := second.reported.trans first.reported

section

variable {settings : StreamSettings} {added : List ReadEvent} {r r' now : FrameReader}

/-- A turn without an answer moves bytes from the source to those at hand, or
nothing. So a call that begins behind it answers as the one that began before
it. -/
theorem Fits.turn_quiet (fits : r.Fits settings) (more : r.turn = (none, now)) : r.Midway now := by
  -- The call goes on behind this turn, so it is the call that would begin there.
  have answers : now.readFrame = r.readFrame := by
    rw [readFrame_eq r, more]
  rcases r.turn_cases with ⟨-, answer, found⟩ | ⟨held, next⟩
  · rw [found] at more
    cases more
  · have gives := Source.read_gives r.source r.chunk
    rw [turn_of_none next, Prod.mk.injEq, Option.map_eq_none_iff] at more
    obtain ⟨quiet, rfl⟩ := more
    rw [held_of_none fits next] at quiet answers ⊢
    rcases Reassembler.arrive_quiet quiet with ⟨failure, met, repeated, same⟩ |
      ⟨bytes, arrived, extended⟩
    · rw [met] at gives
      obtain ⟨coming, reported⟩ := gives
      rw [repeated] at reported
      refine ⟨answers, ?_, ?_, reported.symm⟩
      · rw [FrameReader.direction, same]
        rfl
      · rw [FrameReader.pending, same, FrameReader.pending, coming]
        rfl
    · rw [arrived] at gives
      obtain ⟨coming, reported⟩ := gives
      refine ⟨answers, ?_, ?_, reported.symm⟩
      · rw [FrameReader.direction, extended]
        rfl
      · rw [FrameReader.pending, extended, FrameReader.pending, coming]
        exact List.append_assoc ..

/-! ## A call of two readers -/

/-- The second reader is behind the same turns as the first, or ahead of it within a call, and
otherwise the same but for the failures that are added to its script. -/
def Trails (settings : StreamSettings) (added : List ReadEvent) (r r' : FrameReader) : Prop :=
  ∃ now, r.Midway now ∧ Follows settings added now r'

/-- A call of the second reader reports an added failure while the first waits,
or both calls answer alike. Failures that are not reported are met on the way.
The turns of the second reader are gone through with `readFrame_rule`, while the
first stays before its call and is only known to be somewhere within it. -/
theorem Trails.readFrame (trails : Trails settings added r r') :
    (∃ failure added', reportedOf added = failure :: reportedOf added' ∧
      r'.readFrame.1 = .error (.io failure) ∧ Trails settings added' r r'.readFrame.2) ∨
    ∃ added', reportedOf added' = reportedOf added ∧ r'.readFrame.1 = r.readFrame.1 ∧
      Trails settings added' r.readFrame.2 r'.readFrame.2 := by
  refine readFrame_rule
    (fun r' => ∃ added', reportedOf added' = reportedOf added ∧ Trails settings added' r r')
    (fun answer r' =>
      (∃ failure added', reportedOf added = failure :: reportedOf added' ∧
        answer = .error (.io failure) ∧ Trails settings added' r r') ∨
      ∃ added', reportedOf added' = reportedOf added ∧ answer = r.readFrame.1 ∧
        Trails settings added' r.readFrame.2 r') ?_ ?_ ⟨added, rfl, trails⟩
  -- A turn without an answer meets a failure that is not reported, or the first reader turns too.
  · rintro before after ⟨added', same, now, midway, follows⟩ step
    have turned := follows.turn
    rw [step] at turned
    rcases turned with ⟨failure, rest, rfl, silent, follows'⟩ | ⟨silent, follows'⟩
    · refine ⟨rest, ?_, now, midway, follows'⟩
      have unreported := Option.map_eq_none_iff.mp silent.symm
      rw [← same, reportedOf, reportedOf, List.filterMap_cons_none unreported]
    · have quiet : now.turn = (none, now.turn.2) := Prod.ext silent.symm rfl
      exact ⟨added', same, now.turn.2, midway.trans (follows.fits.turn_quiet quiet), follows'⟩
  -- The turn that answers is that of a failure, or the one that ends the first reader's call.
  · rintro before after answer ⟨added', same, now, midway, follows⟩ step
    have turned := follows.turn
    rw [step] at turned
    rcases turned with ⟨failure, rest, rfl, met, follows'⟩ | ⟨alike, follows'⟩
    · obtain ⟨failure, reports, rfl⟩ := Option.map_eq_some_iff.mp met.symm
      refine .inl ⟨failure, rest, ?_, rfl, now, midway, follows'⟩
      rw [← same, reportedOf, List.filterMap_cons_some reports, reportedOf]
    · have settled : r.readFrame = (answer, now.turn.2) := by
        have turn : now.turn = (some answer, now.turn.2) := Prod.ext alike.symm rfl
        rw [← midway.answers, readFrame_eq, turn]
      rw [settled]
      exact .inr ⟨added', same, rfl, now.turn.2, .refl _, follows'⟩

theorem Trails.travels (trails : Trails settings added r r') : r'.direction = r.direction := by
  obtain ⟨now, midway, follows⟩ := trails
  exact follows.travels.trans midway.travels

/-! ## Runs of two readers -/

/-- An error is answered with in one way, whichever direction the reader has. -/
theorem answer_error (direction direction' : Direction) (error : FrameError) (call : Call) :
    call.answer direction (.error error) = call.answer direction' (.error error) := by
  cases call <;> rfl

/-- A run of the second reader is one of the first with the failures that it
reports strewn in. The induction is on the calls of the second: each of them
reports an added failure, and the first is not asked, or both answer alike. -/
theorem Trails.run (trails : Trails settings added r r') (direction : Direction) (call : Call)
    (count : Nat) :
    ∃ asked reached added', reportedOf added = reached ++ reportedOf added' ∧
      Strewn (r.run (List.replicate asked call)).1
        (reached.map fun failure => call.answer direction (.error (.io failure)))
        (r'.run (List.replicate count call)).1 ∧
      Trails settings added' (r.run (List.replicate asked call)).2
        (r'.run (List.replicate count call)).2 := by
  unfold FrameReader.run
  induction count generalizing r r' added with
  | zero => exact ⟨0, [], added, rfl, .nil, trails⟩
  | succ count ih =>
    rw [List.replicate_succ, converse_cons, call_eq]
    rcases trails.readFrame with ⟨failure, added', next, answer, rest⟩ |
      ⟨added', same, answer, rest⟩
    · obtain ⟨asked, reached, added'', split, strewn, last⟩ := ih rest
      refine ⟨asked, failure :: reached, added'', ?_, ?_, last⟩
      · rw [next, split, List.cons_append]
      · rw [answer, answer_error _ direction, List.map_cons]
        exact .add _ strewn
    · obtain ⟨asked, reached, added'', split, strewn, last⟩ := ih rest
      refine ⟨asked + 1, reached, added'', same ▸ split, ?_, ?_⟩
      · rw [List.replicate_succ, converse_cons, call_eq, answer, rest.travels]
        exact .keep _ strewn
      · rw [List.replicate_succ, converse_cons, call_eq]
        exact last

end

/-! ## From the first byte -/

/-- Asking more often goes on behind the answers so far. -/
theorem run_extends (r : FrameReader) (call : Call) {asked count : Nat} (few : asked ≤ count) :
    (r.run (List.replicate asked call)).1 <+: (r.run (List.replicate count call)).1 := by
  obtain ⟨more, rfl⟩ := Nat.exists_eq_add_of_le few
  unfold run
  rw [List.replicate_add, converse_append]
  exact List.prefix_append ..

/-- The answers that report no failure of the source. -/
def delivered (answers : List Answer) : List Answer :=
  answers.filter fun answer => answer.failure?.isNone

/-- Answers that report failures do not show among those delivered. -/
theorem delivered_strewn {direction : Direction} {call : Call} {failures : List IoFailure}
    {answers answers' : List Answer}
    (strewn : Strewn answers
      (failures.map fun failure => call.answer direction (.error (.io failure))) answers') :
    delivered answers' = delivered answers := by
  refine strewn.filter_eq fun answer reports => ?_
  obtain ⟨failure, -, rfl⟩ := List.mem_map.mp reports
  rw [failure?_answer_failure]
  rfl

/-- Every call that reports no added failure answers one of the first reader's. -/
theorem count_eq {r r' : FrameReader} {direction : Direction} {call : Call} {asked count : Nat}
    {failures : List IoFailure}
    (strewn : Strewn (r.run (List.replicate asked call)).1
      (failures.map fun failure => call.answer direction (.error (.io failure)))
      (r'.run (List.replicate count call)).1) : count = asked + failures.length := by
  have lengths := strewn.length_eq
  rwa [run, run, length_converse, length_converse, List.length_replicate,
    List.length_replicate, List.length_map]
    at lengths

variable {events inserted events' : List ReadEvent}

/-- Before their first calls the second reader stands where the first does. -/
theorem trails_new (direction : Direction) (settings : StreamSettings)
    (strewn : Strewn events inserted events') (fail : AllFail inserted) :
    Trails settings inserted (new direction settings events) (new direction settings events') :=
  ⟨_, .refl _, fits_new .., fits_new .., rfl, rfl, strewn, fail⟩

/-- Failures that are put into a script anywhere change nothing of what a run delivers: neither run
ever delivers what the other does not. Each of them that the run comes to and that is reported
makes one answer of its own, the others are still in store behind the same bytes. Those that are
not reported do not show in the answers at all. -/
theorem run_strewn (strewn : Strewn events inserted events') (fail : AllFail inserted)
    (direction : Direction) (settings : StreamSettings) (call : Call) (count : Nat) :
    let answers (script : List ReadEvent) (count : Nat) :=
      ((new direction settings script).run (List.replicate count call)).1
    let last (script : List ReadEvent) (count : Nat) :=
      ((new direction settings script).run (List.replicate count call)).2
    delivered (answers events' count) <+: delivered (answers events count) ∧
      delivered (answers events count) <+:
        delivered (answers events' (count + inserted.length)) ∧
      (∃ asked reached unreached, reportedOf inserted = reached ++ unreached ∧
        Strewn (answers events asked)
          (reached.map fun failure => call.answer direction (.error (.io failure)))
          (answers events' count) ∧
        Strewn (last events asked).source.reported unreached
          (last events' count).source.reported ∧
        (last events' count).pending = (last events asked).pending) ∧
      (reportedOf inserted = [] → answers events' count = answers events count) := by
  intro answers last
  have follows := fun count => (trails_new direction settings strewn fail).run direction call count
  refine ⟨?_, ?_, ?_, ?_⟩
  · obtain ⟨asked, reached, _, -, answered, -⟩ := follows count
    rw [delivered_strewn answered]
    exact (run_extends _ call (Nat.le.intro (count_eq answered).symm)).filter _
  -- At most as many calls as there are failures put in go to these.
  · obtain ⟨asked, reached, added', split, answered, -⟩ := follows (count + inserted.length)
    rw [delivered_strewn answered]
    have few : reached.length ≤ inserted.length := by
      have lengths := congrArg List.length split
      rw [List.length_append] at lengths
      have reports : (reportedOf inserted).length ≤ inserted.length := List.length_filterMap_le ..
      omega
    have total := count_eq answered
    exact (run_extends _ call (by omega)).filter _
  · obtain ⟨asked, reached, added', split, answered, now, midway, follows⟩ := follows count
    refine ⟨asked, reached, reportedOf added', split, answered, ?_, ?_⟩
    · rw [← midway.reported]
      exact follows.reported
    · rw [follows.pending, midway.pending]
  · intro silent
    obtain ⟨asked, reached, added', split, answered, -⟩ := follows count
    obtain ⟨rfl, -⟩ := List.append_eq_nil_iff.mp (split.symm.trans silent)
    obtain rfl := count_eq answered
    exact answered.eq_of_nothing

/-- A source times out inside a stop, which is followed by a cut off frame and, behind the end of
the stream, by an unknown type. It is interrupted before the end, and would block at last. -/
theorem run_strewn_inside :
    let events : List ReadEvent :=
      [.data [85, 170, 2, 2, 1], .data [151, 189, 85, 170], .data [], .data [85, 170, 99, 1, 2]]
    let inserted : List ReadEvent :=
      [.failure ⟨.timedOut, none⟩, .failure ⟨.interrupted, none⟩, .failure ⟨.wouldBlock, none⟩]
    let events' : List ReadEvent :=
      [.data [85, 170, 2, 2, 1], .failure ⟨.timedOut, none⟩, .data [151, 189, 85, 170],
        .failure ⟨.interrupted, none⟩, .data [], .data [85, 170, 99, 1, 2],
        .failure ⟨.wouldBlock, none⟩]
    let answers (script : List ReadEvent) (count : Nat) :=
      ((new .masterToBoard ⟨1024, 0⟩ script).run (List.replicate count .command)).1
    Strewn events inserted events' ∧ AllFail inserted ∧
      delivered (answers events' 6) <+: delivered (answers events 6) ∧
      delivered (answers events 6) <+: delivered (answers events' 9) ∧
      (answers events 6).map Answer.error? =
        [none, some (.truncatedFrame 2 none), some (.unknownPacketType .masterToBoard 99),
          some (.truncatedFrame 2 none), some .connectionClosed, some .connectionClosed] ∧
      (answers events' 6).map Answer.error? =
        [some (.io ⟨.timedOut, none⟩), none, some (.truncatedFrame 2 none),
          some (.unknownPacketType .masterToBoard 99), some (.io ⟨.wouldBlock, none⟩),
          some (.truncatedFrame 2 none)] := by
  intro events inserted events' answers
  have strewn : Strewn events inserted events' :=
    .keep _ (.add _ (.keep _ (.add _ (.keep _ (.keep _ (.add _ .nil))))))
  have fail : AllFail inserted := by
    intro event mem
    rcases List.mem_cons.mp mem with rfl | mem
    · exact ⟨_, rfl⟩
    · rcases List.mem_pair.mp mem with rfl | rfl <;> exact ⟨_, rfl⟩
  have same := run_strewn strewn fail .masterToBoard ⟨1024, 0⟩ .command 6
  exact ⟨strewn, fail, same.1, same.2.1, by decide +kernel, by decide +kernel⟩

end FrameReader

end MotionLink

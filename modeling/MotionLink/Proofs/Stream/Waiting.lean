import Mathlib
import MotionLink.Proofs.Stream.Directions

/-!
# How long a reader reads

A call of a reader has no counter. It turns until there is an answer, and each
turn without one has read an event of its source or bytes of one, so it turns no
more often than there are events and bytes, and once more for the answer
(`FrameReader.turns_eq`). A turn reads once, and only where the bytes at hand
are a tail: with a whole frame or an unknown type in front of them
(`Splitter.Decided`) nothing is read (`FrameReader.turns_reads`).

What a call answers is what its last turn answers, so the five answers of a turn
(`FrameReader.Settles`) are those of a call.
-/

namespace MotionLink

/-- The events and the bytes that are left are what a source has in store. -/
theorem Source.supply_eq (s : Source) : s.supply = s.events.length + s.coming.length := by
  obtain ⟨events, requests⟩ := s
  unfold supply coming
  induction events with
  | nil => rfl
  | cons event events ih =>
    rw [List.foldr_cons, ih, List.flatMap_cons, List.length_append, List.length_cons]
    cases event with
    | data bytes =>
      simp only [eventSupply, ReadEvent.bytes]
      omega
    | failure failure =>
      simp only [eventSupply, ReadEvent.bytes, List.length_nil]
      omega

/-- A whole frame or an unknown type is at the front of the bytes at hand. -/
def Splitter.Decided (s : Splitter) : Prop :=
  (∃ block more, IsBlock s.direction block ∧ s.buffer = block ++ more) ∨
    (3 ≤ s.buffer.length ∧
      ∃ error, Layout.lookup s.direction (Frame.typeId s.buffer) = .error error)

/-- A splitter answers where the bytes at hand decide. Everything else is a
tail, and a tail is waited for. -/
theorem Splitter.Coherent.decided_iff {s : Splitter} (coherent : s.Coherent) :
    s.Decided ↔ s.next.1 ≠ .ok none := by
  constructor
  · rintro (⟨block, more, whole, front⟩ | ⟨probed, error, unknown⟩)
    · rw [next_of_block coherent whole front]
      exact nofun
    · rw [next_of_unknown coherent probed unknown]
      exact nofun
  · intro answered
    refine (front_cases s.direction s.buffer).resolve_left fun cut => answered ?_
    rw [next_of_tail coherent cut]

namespace FrameReader

/-! ## Turns and reads -/

/-- Turns until there is an answer, at most a number of times. -/
def turns (n : Nat) (r : FrameReader) : Option (Except FrameError Bytes) × FrameReader :=
  untilAnswer turn n r

variable {settings : StreamSettings} {r : FrameReader}

/-- A call needs no more turns than its source has in store, and one. The
induction is on the number of turns, with the store one turn behind it. -/
theorem turns_eq {n : Nat} (enough : r.source.supply < n) :
    r.turns n = (some r.readFrame.1, r.readFrame.2) := by
  unfold turns
  induction n generalizing r with
  | zero => omega
  | succ n ih =>
    rw [readFrame_eq]
    cases step : r.turn with
    | mk answer r' =>
      cases answer with
      | some answer => exact untilAnswer_of_some step n
      | none =>
        have less := supply_turn_lt step
        exact (untilAnswer_of_none step n).trans (ih (by omega))

/-- A turn reads, once, where no frame and no refusal is at hand. Otherwise it answers and leaves
the source alone. -/
theorem turn_reads (r : FrameReader) :
    (r.reassembler.nextFrame.1 = .ok none ∧
      r.turn.2.source.requests = r.chunk :: r.source.requests) ∨
    (r.reassembler.nextFrame.1 ≠ .ok none ∧ r.turn.1 ≠ none ∧ r.turn.2.source = r.source) := by
  rcases r.turn_cases with ⟨found, answer, answers⟩ | ⟨held, next⟩
  · rw [answers]
    exact .inr ⟨found, nofun, rfl⟩
  · rw [turn_of_none next, next]
    exact .inl ⟨rfl, Source.requests_read ..⟩

/-- Turns read no more often than they are, since a turn reads once or not at
all. -/
theorem turns_reads_le (n : Nat) (r : FrameReader) :
    ∃ asked, (r.turns n).2.source.requests = asked ++ r.source.requests ∧ asked.length ≤ n := by
  unfold turns
  induction n generalizing r with
  | zero => exact ⟨[], rfl, Nat.le_refl _⟩
  | succ n ih =>
    obtain ⟨first, once, few⟩ : ∃ first,
        r.turn.2.source.requests = first ++ r.source.requests ∧ first.length ≤ 1 := by
      rcases r.turn_reads with ⟨-, reads⟩ | ⟨-, -, same⟩
      · exact ⟨[r.chunk], reads, Nat.le_refl _⟩
      · exact ⟨[], congrArg Source.requests same, Nat.zero_le _⟩
    cases step : r.turn with
    | mk answer r' =>
      rw [step] at once
      cases answer with
      | some answer =>
        rw [untilAnswer_of_some step]
        exact ⟨first, once, by omega⟩
      | none =>
        obtain ⟨later, reads, bound⟩ := ih r'
        rw [untilAnswer_of_none step]
        refine ⟨later ++ first, ?_, ?_⟩
        · rw [reads, once, List.append_assoc]
        · rw [List.length_append]
          omega

/-- Turns read nothing at all exactly where the first one answers with what is
at hand. A turn that has no answer has read, so every later turn comes behind a
read. -/
theorem turns_reads (n : Nat) (r : FrameReader) :
    ∃ asked, (r.turns (n + 1)).2.source.requests = asked ++ r.source.requests ∧
      asked.length ≤ n + 1 ∧ (asked = [] ↔ r.reassembler.nextFrame.1 ≠ .ok none) := by
  have others := turns_reads_le n
  unfold turns at others ⊢
  rcases r.turn_reads with ⟨waits, reads⟩ | ⟨answers, settled, same⟩
  · -- The first turn reads, and the others add to it.
    cases step : r.turn with
    | mk answer r' =>
      rw [step] at reads
      obtain ⟨later, more, bound⟩ := others r'
      cases answer with
      | some answer =>
        rw [untilAnswer_of_some step]
        exact ⟨[r.chunk], reads, Nat.succ_le_succ (Nat.zero_le n),
          iff_of_false (List.cons_ne_nil _ _) (not_not_intro waits)⟩
      | none =>
        rw [untilAnswer_of_none step]
        refine ⟨later ++ [r.chunk], ?_, ?_, iff_of_false ?_ (not_not_intro waits)⟩
        · rw [more, reads, List.append_assoc, List.singleton_append]
        · rw [List.length_append]
          exact Nat.succ_le_succ bound
        · exact List.append_ne_nil_of_right_ne_nil _ (List.cons_ne_nil _ _)
  · obtain ⟨answer, first⟩ := Option.ne_none_iff_exists'.mp settled
    have step : r.turn = (some answer, r.turn.2) := Prod.ext first rfl
    rw [untilAnswer_of_some step]
    exact ⟨[], congrArg Source.requests same, Nat.zero_le _, iff_of_true rfl answers⟩

/-! ## The outcomes of a call -/

/-- The answers of a reader: a whole frame, an unknown type, a failure that is not repeated, a
frame that the end of the stream cuts off, or the end between two frames. -/
inductive Settles (direction : Direction) : Except FrameError Bytes → Prop where
  | frame {frame : Bytes} (whole : IsBlock direction frame) : Settles direction (.ok frame)
  | unknown (id : UInt8) : Settles direction (.error (.unknownPacketType direction id))
  | failure {failure : IoFailure} (reported : failure.kind ≠ .interrupted) :
      Settles direction (.error (.io failure))
  | truncated {tail : Bytes} (cut : IsTail direction tail) (some : tail ≠ []) :
      Settles direction (.error (.truncatedFrame tail.length (blockLength? direction tail)))
  | closed : Settles direction (.error .connectionClosed)

/-- The end of a stream is reported as closed or as cutting off a frame. -/
theorem settles_ending {direction : Direction} {tail : Bytes} (cut : IsTail direction tail) :
    Settles direction (.error (ending direction tail)) := by
  unfold ending
  split
  · exact .closed
  · rename_i some
    exact .truncated cut some

/-- A turn that answers gives one of the five. A refused chunk is not among
them, since a reader has room for what it asks for. -/
theorem Fits.turn_settles {after : FrameReader} {answer : Except FrameError Bytes}
    (fits : r.Fits settings) (step : r.turn = (some answer, after)) :
    Settles r.direction answer := by
  rcases fits.bounded.nextFrame_outcome with ⟨cut, next⟩ | ⟨block, more, whole, front, next⟩ | next
  · rw [turn_of_none next, Prod.mk.injEq, Option.map_eq_some_iff] at step
    obtain ⟨⟨error, refused, rfl⟩, -⟩ := step
    cases arrival : (r.source.read r.chunk).1 with
    | error failure =>
      rw [arrival, Reassembler.arrive] at refused
      split at refused
      · cases refused
      · rename_i reported
        cases refused
        exact .failure reported
    | ok bytes =>
      rw [arrival] at refused
      cases bytes with
      | nil =>
        rw [(Reassembler.arrive_end (r := ⟨r.reassembler.limit, r.reassembler.splitter.settled⟩)
          rfl).1] at refused
        cases refused
        exact settles_ending cut
      | cons byte bytes =>
        -- The chunk is taken in, so this turn has no answer.
        rw [fits.arrive_chunk cut arrival] at refused
        cases refused
  · rw [turn_of_frame next] at step
    cases step
    exact .frame whole
  · rw [turn_of_error next] at step
    cases step
    exact .unknown _

/-- A call answers with one of the five, since its last turn does. -/
theorem Fits.readFrame_settles (fits : r.Fits settings) : Settles r.direction r.readFrame.1 :=
  fits.readFrame_last_turn (fun answer _ => Settles r.direction answer)
    fun _ _ _ kept same step => same ▸ kept.turn_settles step

/-- A call comes to an end, whatever has become of a reader and whatever its source has in store. It
reads at most once for every event, once for every byte and once more, and it does not read at all
exactly where a whole frame or an unknown type is at hand. Its answer is one of the five, and never
that there was no room. -/
theorem reads_bounded {direction : Direction} {settings : StreamSettings}
    {events : List ReadEvent} {r : FrameReader}
    (reached : (new direction settings events).Becomes r) (script : List ReadEvent) :
    let started : FrameReader := { r with source := ⟨script, r.source.requests⟩ }
    let most := script.length + (script.flatMap ReadEvent.bytes).length + 1
    started.turns most = (some started.readFrame.1, started.readFrame.2) ∧
    (∃ asked, started.readFrame.2.source.requests = asked ++ r.source.requests ∧
      asked.length ≤ most ∧ (asked = [] ↔ r.reassembler.splitter.Decided)) ∧
    Settles direction started.readFrame.1 := by
  intro started most
  have first := fits_new direction settings events
  obtain ⟨limit, chunk, bounded, asked⟩ := first.becomes reached
  have fits : started.Fits settings := ⟨limit, chunk, bounded, asked⟩
  have travels : r.direction = direction := first.direction_becomes reached
  have ends : started.turns most = (some started.readFrame.1, started.readFrame.2) :=
    turns_eq (Nat.lt_succ_of_le (Source.supply_eq _).le)
  refine ⟨ends, ?_, travels ▸ fits.readFrame_settles⟩
  have reads := turns_reads (script.length + (script.flatMap ReadEvent.bytes).length) started
  rw [ends] at reads
  rw [bounded.coherent.decided_iff]
  exact reads

/-- A reader with two bytes at hand, before a script that interrupts it, brings the type id and ends
there. It makes three of the five reads it may make, besides the two before. -/
theorem reads_bounded_cut :
    let first := new .masterToBoard ⟨1, 0⟩ [.data [85, 170]]
    let r := first.turn.2.turn.2
    let script : List ReadEvent := [.failure ⟨.interrupted, none⟩, .data [2], .data []]
    let started : FrameReader := { r with source := ⟨script, r.source.requests⟩ }
    first.Becomes r ∧
      started.turns 5 = (some started.readFrame.1, started.readFrame.2) ∧
      (∃ asked, started.readFrame.2.source.requests = asked ++ r.source.requests ∧
        asked.length ≤ 5 ∧ (asked = [] ↔ r.reassembler.splitter.Decided)) ∧
      Settles .masterToBoard started.readFrame.1 ∧
      started.readFrame.2.source.requests = [1, 1, 1, 1, 1] ∧
      started.readFrame.1 = .error (.truncatedFrame 3 (some 7)) := by
  intro first r script started
  have reached : first.Becomes r := .turn (.turn .start)
  obtain ⟨ends, reads, settles⟩ := reads_bounded reached script
  exact ⟨reached, ends, reads, settles, by decide +kernel, by decide +kernel⟩

end FrameReader

end MotionLink

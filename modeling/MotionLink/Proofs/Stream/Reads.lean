import Mathlib
import MotionLink.Stream.Source

/-!
# What a source gives

A read takes the front of the script (`Source.read_cases`), so it gives no more
than it was asked for, and nothing only at the end of the stream. Of a script,
`coming` is the bytes that are still to be read and `reported` the failures that
are: an interrupted read is repeated and not reported. Each read takes its
answer off one of the two (`Source.read_takes`).
-/

namespace MotionLink

/-- The bytes of an event. -/
def ReadEvent.bytes : ReadEvent → Bytes
  | .data bytes => bytes
  | .failure _ => []

/-- The failure of an event, unless the read is repeated. -/
def ReadEvent.reported? : ReadEvent → Option IoFailure
  | .data _ => none
  | .failure cause => if cause.kind = .interrupted then none else some cause

/-- An end of the stream is followed by no more bytes. -/
def EndsLast (events : List ReadEvent) : Prop :=
  events.Pairwise fun first later => first = .data [] → later.bytes = []

instance (events : List ReadEvent) : Decidable (EndsLast events) :=
  inferInstanceAs (Decidable (events.Pairwise _))

/-- What is left of a script after its first event ends last as well. -/
theorem EndsLast.tail {event : ReadEvent} {events : List ReadEvent}
    (ends : EndsLast (event :: events)) : EndsLast events := List.Pairwise.of_cons ends

/-- The first event may have other bytes, so long as it does not become an end. -/
theorem EndsLast.replace {event : ReadEvent} {bytes : Bytes} {events : List ReadEvent}
    (ends : EndsLast (event :: events)) (some : bytes ≠ []) :
    EndsLast (.data bytes :: events) :=
  List.pairwise_cons.mpr
    ⟨fun _ _ empty => absurd (ReadEvent.data.inj empty) some, List.Pairwise.of_cons ends⟩

namespace Source

/-- The bytes that are still to be read. -/
def coming (s : Source) : Bytes := s.events.flatMap ReadEvent.bytes

/-- The failures that are still to be reported. -/
def reported (s : Source) : List IoFailure := s.events.filterMap ReadEvent.reported?

theorem coming_cons (event : ReadEvent) (events : List ReadEvent) (requests : List Nat) :
    coming ⟨event :: events, requests⟩ = event.bytes ++ coming ⟨events, requests⟩ :=
  List.flatMap_cons

/-- A failure in the first event is reported first, unless the read is repeated. -/
theorem reported_cons (event : ReadEvent) (events : List ReadEvent) (requests : List Nat) :
    reported ⟨event :: events, requests⟩ =
      event.reported?.toList ++ reported ⟨events, requests⟩ := by
  unfold reported
  rw [List.filterMap_cons]
  cases event.reported? with
  | none => rfl
  | some failure => rfl

section

variable (s : Source) (wanted : Nat)

/-- What a read does to the front of the script. It finds the script empty, or
takes a failure off, or takes all bytes of an event, or as many of them as it
asked for, and leaves the others in front. -/
theorem read_cases :
    (s.events = [] ∧ s.read wanted = (.ok [], ⟨[], wanted :: s.requests⟩)) ∨
    (∃ failure events, s.events = .failure failure :: events ∧
      s.read wanted = (.error failure, ⟨events, wanted :: s.requests⟩)) ∨
    (∃ bytes events, s.events = .data bytes :: events ∧ bytes.length ≤ wanted ∧
      s.read wanted = (.ok bytes, ⟨events, wanted :: s.requests⟩)) ∨
    ∃ bytes events, s.events = .data bytes :: events ∧ wanted < bytes.length ∧
      s.read wanted = (.ok (bytes.take wanted),
        ⟨.data (bytes.drop wanted) :: events, wanted :: s.requests⟩) := by
  obtain ⟨events, requests⟩ := s
  cases events with
  | nil => exact .inl ⟨rfl, rfl⟩
  | cons event events =>
    cases event with
    | failure failure => exact .inr (.inl ⟨failure, events, rfl, rfl⟩)
    | data bytes =>
      by_cases few : bytes.length ≤ wanted
      · exact .inr (.inr (.inl ⟨bytes, events, rfl, few, by simp only [read, few, if_true]⟩))
      · refine .inr (.inr (.inr ⟨bytes, events, rfl, Nat.not_le.mp few, ?_⟩))
        simp only [read, few, if_false]

/-- A read is kept in mind by the number of bytes it asked for, however it ends. -/
theorem requests_read : (s.read wanted).2.requests = wanted :: s.requests := by
  rcases read_cases s wanted with ⟨-, read⟩ | ⟨_, _, -, read⟩ | ⟨_, _, -, -, read⟩ |
    ⟨_, _, -, -, read⟩ <;> rw [read]

end

section

variable {s : Source} {wanted : Nat} {bytes : Bytes}

/-- A read gives no more than it was asked for. -/
theorem length_read_le (arrived : (s.read wanted).1 = .ok bytes) : bytes.length ≤ wanted := by
  rcases read_cases s wanted with ⟨-, read⟩ | ⟨_, _, -, read⟩ | ⟨_, _, -, few, read⟩ |
    ⟨_, _, -, -, read⟩ <;> rw [read] at arrived <;> cases arrived
  · exact Nat.zero_le _
  · exact few
  · exact List.length_take_le ..

/-- A read that asked for something and got nothing has come to the end. Had it
asked for nothing, an empty answer would say nothing about the stream. -/
theorem ended_of_read (asked : 0 < wanted) (nothing : (s.read wanted).1 = .ok []) :
    s.events = [] ∨ ∃ events, s.events = .data [] :: events := by
  rcases read_cases s wanted with ⟨last, -⟩ | ⟨_, _, -, read⟩ | ⟨_, events, next, -, read⟩ |
    ⟨bytes, _, -, many, read⟩
  · exact .inl last
  · rw [read] at nothing
    cases nothing
  · rw [read] at nothing
    cases nothing
    exact .inr ⟨events, next⟩
  · rw [read] at nothing
    have taken := congrArg List.length (Except.ok.inj nothing)
    rw [List.length_take, List.length_nil] at taken
    omega

/-- A read takes its answer off what is coming or off what is reported, and
leaves the other as it was. -/
theorem read_gives (s : Source) (wanted : Nat) :
    match (s.read wanted).1 with
    | .ok bytes =>
      s.coming = bytes ++ (s.read wanted).2.coming ∧ s.reported = (s.read wanted).2.reported
    | .error failure =>
      s.coming = (s.read wanted).2.coming ∧
        s.reported = (ReadEvent.failure failure).reported?.toList ++
          (s.read wanted).2.reported := by
  obtain ⟨script, requests⟩ := s
  rcases read_cases ⟨script, requests⟩ wanted with ⟨next, read⟩ | ⟨failure, events, next, read⟩ |
    ⟨bytes, events, next, few, read⟩ | ⟨bytes, events, next, many, read⟩ <;>
    obtain rfl : script = _ := next <;> rw [read]
  · exact ⟨rfl, rfl⟩
  · exact ⟨coming_cons .., reported_cons ..⟩
  · exact ⟨coming_cons .., rfl⟩
  · refine ⟨?_, rfl⟩
    rw [coming_cons, coming_cons, ← List.append_assoc]
    exact congrArg (· ++ _) (List.take_append_drop wanted bytes).symm

/-- The end of the stream stays the last through a read, and the read that gives it comes to it. -/
theorem read_takes (asked : 0 < wanted) (ends : EndsLast s.events) :
    EndsLast (s.read wanted).2.events ∧
      match (s.read wanted).1 with
      | .ok bytes =>
        s.coming = bytes ++ (s.read wanted).2.coming ∧
          s.reported = (s.read wanted).2.reported ∧ (bytes = [] → s.coming = [])
      | .error failure =>
        s.coming = (s.read wanted).2.coming ∧
          s.reported = (ReadEvent.failure failure).reported?.toList ++
            (s.read wanted).2.reported := by
  have gives := read_gives s wanted
  obtain ⟨script, requests⟩ := s
  rcases read_cases ⟨script, requests⟩ wanted with ⟨next, read⟩ | ⟨failure, events, next, read⟩ |
    ⟨bytes, events, next, few, read⟩ | ⟨bytes, events, next, many, read⟩ <;>
    obtain rfl : script = _ := next <;> rw [read] at gives ⊢
  · exact ⟨ends, gives.1, gives.2, fun _ => rfl⟩
  · exact ⟨ends.tail, gives⟩
  · refine ⟨ends.tail, gives.1, gives.2, ?_⟩
    rintro rfl
    exact List.flatMap_eq_nil_iff.mpr fun event mem => by
      rcases List.mem_cons.mp mem with rfl | later
      · rfl
      · exact (List.pairwise_cons.mp ends).1 event later rfl
  · have some : bytes.take wanted ≠ [] := List.ne_nil_of_length_pos (by
      rw [List.length_take]
      omega)
    have left : bytes.drop wanted ≠ [] := List.ne_nil_of_length_pos (by
      rw [List.length_drop]
      omega)
    exact ⟨ends.replace left, gives.1, gives.2, fun none => absurd none some⟩

end

end Source

end MotionLink

import MotionLink.Bytes
import MotionLink.IoFailure

/-!
# Sources of bytes

A source answers reads from a script of events. A read asks for a number of
bytes and gets some of them, or none at the end of the stream, or a failure. An
event with more bytes than were asked for is delivered over several reads, and
a script that is used up has come to its end.

`Source.supply` counts the events and bytes that are left. Each read that
neither comes to the end nor asks for nothing makes it smaller
(`supply_read_lt`), so a loop of such reads ends.
-/

namespace MotionLink

/-- What a source has in store for a read. -/
inductive ReadEvent where
  | data (bytes : Bytes)
  | failure (failure : IoFailure)
  deriving DecidableEq, Repr

/-- A script of events, and a record of the reads it has answered. -/
structure Source where
  events : List ReadEvent
  /-- The number of bytes each read asked for, the latest first. -/
  requests : List Nat := []
  deriving DecidableEq, Repr

namespace Source

/-- How much an event has in store: itself and its bytes. -/
def eventSupply : ReadEvent → Nat
  | .data bytes => 1 + bytes.length
  | .failure _ => 1

/-- How many events and bytes are left. -/
def supply (s : Source) : Nat := s.events.foldr (eventSupply · + ·) 0

/-- Answers a read that asks for `wanted` bytes. -/
def read (s : Source) (wanted : Nat) : Except IoFailure Bytes × Source :=
  let requests := wanted :: s.requests
  match s.events with
  | [] => (.ok [], ⟨[], requests⟩)
  | .failure failure :: events => (.error failure, ⟨events, requests⟩)
  | .data bytes :: events =>
    if bytes.length ≤ wanted then (.ok bytes, ⟨events, requests⟩)
    else (.ok (bytes.take wanted), ⟨.data (bytes.drop wanted) :: events, requests⟩)

/-- A read that does not come to the end leaves less. -/
theorem supply_read_lt {s s' : Source} {wanted : Nat} {answer : Except IoFailure Bytes}
    (step : s.read wanted = (answer, s')) (asked : 0 < wanted) (more : answer ≠ .ok []) :
    s'.supply < s.supply := by
  unfold read at step
  split at step
  · simp only [Prod.mk.injEq] at step
    exact absurd step.1.symm more
  · rename_i events heq
    simp only [Prod.mk.injEq] at step
    rw [← step.2]
    simp only [supply, heq, List.foldr_cons, eventSupply]
    omega
  · rename_i bytes events heq
    split at step <;> simp only [Prod.mk.injEq] at step <;> rw [← step.2] <;>
      simp only [supply, heq, List.foldr_cons, eventSupply, List.length_drop] <;> omega

end Source

end MotionLink

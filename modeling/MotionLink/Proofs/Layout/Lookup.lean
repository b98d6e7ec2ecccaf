import Mathlib
import MotionLink.Layout.Registry

/-!
# What the registry answers

A layout that is found is a registered one of the direction and type id asked
for, and an unknown type is named in the refusal. The lengths of registered
frames are bounded on both sides.
-/

namespace MotionLink.Layout

/-- A layout that is found is registered, for the direction and the type id
asked for. -/
theorem lookup_eq_ok {direction : Direction} {id : UInt8} {layout : Layout}
    (found : lookup direction id = .ok layout) :
    layout ∈ registry ∧ layout.kind.direction = direction ∧ layout.kind.id = id := by
  unfold lookup at found
  split at found
  · rename_i known
    cases found
    have asked := List.find?_some known
    exact ⟨List.mem_of_find?_eq_some known, of_decide_eq_true asked⟩
  · cases found

/-- A type that is not found is named in the refusal, with its direction. -/
theorem lookup_eq_error {direction : Direction} {id : UInt8} {error : FrameError}
    (missing : lookup direction id = .error error) : error = .unknownPacketType direction id := by
  unfold lookup at missing
  split at missing
  · cases missing
  · exact (Except.error.inj missing).symm

@[simp] theorem maxFrameLength_eq : maxFrameLength = 112 := by decide

/-- The shortest frame is a header with its trailer, the longest a trajectory. -/
theorem frameLength_bounds {layout : Layout} (registered : layout ∈ registry) :
    6 ≤ layout.frameLength ∧ layout.frameLength ≤ maxFrameLength := by
  revert layout
  decide

end MotionLink.Layout

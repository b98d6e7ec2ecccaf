import MotionLink.Feedback

/-!
# Animations of a simulated board

The attitude a simulated board reports, as a function of the seconds since it
was started. Every product and sum is rounded on its own, in the order written.
-/

namespace MotionLink

/-- How a simulated board moves. -/
inductive Animation where
  | rotate
  | tilt
  | wobble
  | still
  deriving DecidableEq, Repr

namespace Animation

/-- All animations. -/
def all : List Animation := [rotate, tilt, wobble, still]

/-- The animation's name on the command line. -/
def name : Animation → String
  | rotate => "rotate"
  | tilt => "tilt"
  | wobble => "wobble"
  | still => "still"

/-- The value nearest to a number of tenths. -/
def tenths (n : Nat) : Binary32 := Binary32.ofRatio n 10

/-- The attitude `t` seconds after the start. -/
def orientation (animation : Animation) (t : Binary32) : Orientation :=
  match animation with
  | rotate =>
    ⟨(t * tenths 5).sin * tenths 5, (t * tenths 3).sin * tenths 3, t * tenths 2⟩
  | tilt => ⟨Binary32.zero, t.sin * tenths 8, Binary32.zero⟩
  | wobble =>
    ⟨(t * tenths 21).sin * tenths 4 + (t * tenths 13).cos * tenths 2,
      (t * tenths 17).sin * tenths 3 + (t * tenths 25).cos * tenths 3,
      (t * tenths 9).sin * tenths 5⟩
  | still => ⟨tenths 1, (tenths 2).neg, Binary32.zero⟩

end Animation

end MotionLink

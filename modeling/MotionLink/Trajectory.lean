import MotionLink.Binary32
import MotionLink.FrameError

/-!
# Trajectories

A trajectory gives each of a board's three motors a polynomial of degree seven
in the seconds since its start, and holds from its start for a number of
milliseconds. Outside that window the positions are those of the nearer end:
`Trajectory.elapsed` clamps the time, and all motors are evaluated at it.
-/

namespace MotionLink

/-- One value for each motor of a board. -/
structure PerMotor (α : Type) where
  first : α
  second : α
  third : α
  deriving DecidableEq, Repr

namespace PerMotor

variable {α β : Type}

def toList (m : PerMotor α) : List α := [m.first, m.second, m.third]

def map (f : α → β) (m : PerMotor α) : PerMotor β := ⟨f m.first, f m.second, f m.third⟩

def replicate (value : α) : PerMotor α := ⟨value, value, value⟩

end PerMotor

/-- How many coefficients a motor's polynomial has. -/
def coefficientCount : Nat := 8

/-- The coefficients `a₀ … a₇` of `a₀ + a₁ t + … + a₇ t⁷`. -/
structure Coefficients where
  terms : List Binary32
  length_terms : terms.length = coefficientCount
  deriving DecidableEq, Repr

namespace Coefficients

/-- Takes a list of exactly eight values. -/
def ofList (values : List Binary32) : Except FrameError Coefficients :=
  if h : values.length = coefficientCount then .ok ⟨values, h⟩
  else .error (.malformedCommand (.command .trajectory) (.coefficientCount values.length))

/-- The polynomial with the same value at all times. -/
def constant (position : Binary32) : Coefficients :=
  ⟨position :: List.replicate 7 Binary32.zero, rfl⟩

/-- The polynomial's value, by Horner's rule from the highest coefficient. -/
def evaluate (c : Coefficients) (t : Binary32) : Binary32 :=
  c.terms.foldr (fun a acc => acc * t + a) Binary32.zero

def isFinite (c : Coefficients) : Bool := c.terms.all Binary32.isFinite

end Coefficients

/-- A polynomial per motor over a window of board time. -/
structure Trajectory where
  id : UInt32
  /-- Board time in milliseconds at which the window opens. -/
  start : UInt32
  /-- Length of the window in milliseconds. -/
  duration : UInt16
  motors : PerMotor Coefficients
  deriving DecidableEq, Repr

namespace Trajectory

/-- Builds a trajectory from lists of coefficients, of which the first that has
not eight values is refused. -/
def ofLists (id start : UInt32) (duration : UInt16) (motors : PerMotor (List Binary32)) :
    Except FrameError Trajectory := do
  let first ← Coefficients.ofList motors.first
  let second ← Coefficients.ofList motors.second
  let third ← Coefficients.ofList motors.third
  return ⟨id, start, duration, ⟨first, second, third⟩⟩

/-- Whether the window is open, both ends included. -/
def isActive (t : Trajectory) (now : UInt32) : Bool :=
  t.start ≤ now && now - t.start ≤ t.duration.toUInt32

/-- Milliseconds since the start, held within the window. -/
def elapsed (t : Trajectory) (now : UInt32) : UInt32 :=
  let since := if now ≤ t.start then 0 else now - t.start
  if since ≤ t.duration.toUInt32 then since else t.duration.toUInt32

/-- The motors' positions at a board time. -/
def positionsAt (t : Trajectory) (now : UInt32) : PerMotor Binary32 :=
  let seconds := Binary32.ofWord32 (t.elapsed now) / Binary32.ofRatio 1000 1
  t.motors.map (Coefficients.evaluate · seconds)

end Trajectory

end MotionLink

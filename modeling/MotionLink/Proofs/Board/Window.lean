import Mathlib
import MotionLink.Board

/-!
# The window of a trajectory

Clock, start and length of a window are words of two widths, and a window may
end past the top of the clock. In integers without bound the offset of a board
time (`Trajectory.offset`) says all there is to say: the window is open where
the offset lies within it, and the motors are evaluated at the offset held
within it (`Trajectory.held`). The test and the positions each compute this for
themselves, with differences of words; `isActive_iff` and `toNat_elapsed` bring
both back to the offset.
-/

namespace MotionLink.Trajectory

/-- Milliseconds from the start to a board time, negative before the start. -/
def offset (t : Trajectory) (now : UInt32) : ℤ := now.toNat - t.start.toNat

/-- The offset held within the window. -/
def held (t : Trajectory) (now : UInt32) : ℤ := min (max (t.offset now) 0) t.duration.toNat

/-- The positions of all three motors a number of milliseconds after the start. -/
def positionsAfter (t : Trajectory) (elapsed : UInt32) : PerMotor Binary32 :=
  let seconds := Binary32.ofWord32 elapsed / Binary32.ofRatio 1000 1
  ⟨t.motors.first.evaluate seconds, t.motors.second.evaluate seconds,
    t.motors.third.evaluate seconds⟩

/-- Milliseconds since the start, none before it. -/
def since? (t : Trajectory) (now : UInt32) : Option UInt32 :=
  if t.start ≤ now then some (now - t.start) else none

/-- Whether the window is open; no answer where the time since the start has none. -/
def isActive? (t : Trajectory) (now : UInt32) : Option Bool :=
  if t.start ≤ now then (t.since? now).map (decide <| · ≤ t.duration.toUInt32) else some false

/-! ## Words -/

/-- A difference of words that stops at zero. -/
theorem toNat_saturating (a b : UInt32) :
    (if a ≤ b then 0 else a - b).toNat = a.toNat - b.toNat := by
  split
  · rename_i below
    have := UInt32.le_iff_toNat_le.mp below
    rw [UInt32.toNat_zero]
    omega
  · rename_i above
    rw [UInt32.toNat_sub_of_le _ _ (UInt32.le_of_lt (UInt32.not_le.mp above))]

/-- The smaller of two words. -/
theorem toNat_smaller (a b : UInt32) : (if a ≤ b then a else b).toNat = min a.toNat b.toNat := by
  split <;> rename_i h <;> rw [UInt32.le_iff_toNat_le] at h <;> omega

variable {t : Trajectory} {now : UInt32}

/-! ## The offset -/

theorem offset_nonneg_iff : 0 ≤ t.offset now ↔ t.start ≤ now := by
  rw [offset, UInt32.le_iff_toNat_le]
  omega

/-- From the start on, the difference of the words is the offset: it does not
wrap, since the smaller word is taken from the larger. -/
theorem toNat_since (begun : t.start ≤ now) : ((now - t.start).toNat : ℤ) = t.offset now := by
  rw [offset, UInt32.toNat_sub_of_le _ _ begun, Nat.cast_sub (UInt32.le_iff_toNat_le.mp begun)]

/-- The window is open where the offset lies within it. -/
theorem isActive_iff :
    t.isActive now = true ↔ 0 ≤ t.offset now ∧ t.offset now ≤ t.duration.toNat := by
  rw [isActive, Bool.and_eq_true, decide_eq_true_iff, decide_eq_true_iff, offset_nonneg_iff]
  refine and_congr_right fun begun => ?_
  rw [← toNat_since begun, UInt32.le_iff_toNat_le, UInt16.toNat_toUInt32, Nat.cast_le]

/-- The difference in the test is formed only from the start on, so the test
always has an answer. -/
theorem isActive?_eq (t : Trajectory) (now : UInt32) : t.isActive? now = some (t.isActive now) := by
  unfold isActive? since? isActive
  by_cases begun : t.start ≤ now
  · simp only [begun, if_true, Option.map_some, decide_true, Bool.true_and]
  · simp only [begun, if_false, decide_false, Bool.false_and]

/-- The motors are evaluated at the offset held within the window. Before the
start the difference stops at zero, and past the end the length of the window is
taken. -/
theorem toNat_elapsed (t : Trajectory) (now : UInt32) :
    ((t.elapsed now).toNat : ℤ) = t.held now := by
  rw [elapsed, toNat_smaller, toNat_saturating, UInt16.toNat_toUInt32, held, offset]
  omega

/-- The positions at a time are those after the time that has passed since the
start, for all three motors alike. -/
theorem positionsAt_eq (t : Trajectory) (now : UInt32) :
    t.positionsAt now = t.positionsAfter (t.elapsed now) := rfl

/-- Times with the same offset within the window have the same positions. -/
theorem positionsAt_eq_after {elapsed : UInt32} (same : t.held now = elapsed.toNat) :
    t.positionsAt now = t.positionsAfter elapsed := by
  rw [← toNat_elapsed, Nat.cast_inj] at same
  rw [positionsAt_eq, UInt32.toNat_inj.mp same]

/-- Within the window, and only there, nothing is held back. -/
theorem held_eq_offset_iff : t.held now = t.offset now ↔ t.isActive now = true := by
  rw [isActive_iff, held]
  omega

/-- For every trajectory and board time: the window is open exactly from its start to its end in
integers without bound, also where the end is past the top of the clock, and no difference of words
is formed below zero. All three motors are evaluated at the offset held within the window. Hence
before the start the positions are those at the start, after an end that the clock reaches they are
those at the end, times held at the same offset have the same positions, and nothing is held back
exactly while the window is open. A board that follows the trajectory reports these positions. -/
theorem window_exact (t : Trajectory) (now : UInt32) :
    (t.isActive now = true ↔ (t.start.toNat : ℤ) ≤ now.toNat ∧
      (now.toNat : ℤ) ≤ t.start.toNat + t.duration.toNat) ∧
    t.isActive? now = some (t.isActive now) ∧
    ((t.elapsed now).toNat : ℤ) =
      min (max ((now.toNat : ℤ) - t.start.toNat) 0) t.duration.toNat ∧
    t.positionsAt now = t.positionsAfter (t.elapsed now) ∧
    (now ≤ t.start → t.positionsAt now = t.positionsAfter 0 ∧
      t.positionsAt now = t.positionsAt t.start) ∧
    (∀ stop : UInt32, stop.toNat = t.start.toNat + t.duration.toNat → stop ≤ now →
      t.positionsAt now = t.positionsAfter t.duration.toUInt32 ∧
      t.positionsAt now = t.positionsAt stop) ∧
    (∀ other : UInt32, t.held other = t.held now → t.positionsAt other = t.positionsAt now) ∧
    (t.isActive now = true ↔ ((t.elapsed now).toNat : ℤ) = now.toNat - t.start.toNat) ∧
    ∀ (b : Board) (orientation : Orientation), b.trajectory = some t →
      (b.motorState now orientation).motors.map MotorSample.position =
        t.positionsAfter (t.elapsed now) := by
  -- The positions depend on the held offset alone; the laws for both ends are cases of this.
  have alike (other : UInt32) (same : t.held other = t.held now) :
      t.positionsAt other = t.positionsAt now :=
    (positionsAt_eq_after (same.trans (toNat_elapsed t now).symm)).trans (positionsAt_eq t now).symm
  refine ⟨?_, isActive?_eq t now, toNat_elapsed t now, positionsAt_eq t now, ?_, ?_, alike, ?_, ?_⟩
  · rw [isActive_iff, offset]
    omega
  · intro early
    have before := UInt32.le_iff_toNat_le.mp early
    refine ⟨positionsAt_eq_after ?_, (alike t.start ?_).symm⟩
    · rw [held, offset, UInt32.toNat_zero]
      omega
    · simp only [held, offset]
      omega
  · intro stop ends late
    have after := UInt32.le_iff_toNat_le.mp late
    refine ⟨positionsAt_eq_after ?_, (alike stop ?_).symm⟩
    · rw [held, offset, UInt16.toNat_toUInt32]
      omega
    · simp only [held, offset]
      omega
  · rw [← held_eq_offset_iff, toNat_elapsed]
    rfl
  · intro b orientation follows
    simp only [Board.motorState, follows]
    rfl

/-- A window that ends past the top of the clock stays open up to it, and is not open at the times
that its end would wrap to. -/
example :
    let t : Trajectory := ⟨7, 0xFFFFFFF0, 100, .replicate (.constant .zero)⟩
    t.isActive 0xFFFFFFFF = true ∧ t.elapsed 0xFFFFFFFF = 15 ∧ t.isActive 5 = false ∧
      t.elapsed 5 = 0 := by
  decide

end MotionLink.Trajectory

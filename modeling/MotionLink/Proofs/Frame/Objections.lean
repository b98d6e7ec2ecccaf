import Mathlib
import MotionLink.Proofs.Frame.Rewriting

/-!
# What is held against a command

A command is kept from being sent for what its address, its coefficients or its
jog are (`Command.Objection`), each of them a reason by itself. Where there are
several, `CommandFault.rank` says which one is reported: the address before the
body, a trajectory's motors in the order of their numbers, and a jog's motor
before its speed before its distance. `Command.fault?` finds the first objection
without looking at those behind it.
-/

namespace MotionLink

/-- The place of a fault in the order in which faults of a command are reported. -/
def CommandFault.rank : CommandFault → Nat
  | broadcast => 0
  | nonFiniteCoefficient motor => motor
  | motorId _ => 4
  | speed _ => 5
  | distance => 6
  | coefficientCount _ | reported _ => 7

theorem Coefficients.isFinite_eq_false {coefficients : Coefficients} :
    coefficients.isFinite = false ↔ ∃ term ∈ coefficients.terms, term.isFinite = false := by
  rw [isFinite, List.all_eq_false]
  simp only [Bool.not_eq_true]

/-- The motor that a trajectory is refused for is the first with a coefficient
that is not finite. -/
theorem Trajectory.fault?_eq_some {t : Trajectory} {fault : CommandFault}
    (found : t.fault? = some fault) :
    ∃ index motor, t.motors.toList[index]? = some motor ∧ motor.isFinite = false ∧
      fault = .nonFiniteCoefficient (index + 1) ∧
      ∀ earlier < index, ∀ other, t.motors.toList[earlier]? = some other →
        other.isFinite = true := by
  obtain ⟨index, first, rfl⟩ := Option.map_eq_some_iff.mp found
  obtain ⟨inside, wild, before⟩ := List.findIdx?_eq_some_iff_getElem.mp first
  refine ⟨index, t.motors.toList[index], List.getElem?_eq_getElem inside, ?_, rfl, ?_⟩
  · simpa only [Bool.not_eq_true'] using wild
  · intro earlier sooner other numbered
    obtain ⟨bound, rfl⟩ := List.getElem?_eq_some_iff.mp numbered
    simpa only [Bool.not_eq_true, Bool.not_eq_false'] using before earlier sooner

/-- A jog is refused for its motor, else for its speed, else for its distance.
Each case says that what is looked at before it was in order. -/
theorem Jog.fault?_eq_some {jog : Jog} {fault : CommandFault} (found : jog.fault? = some fault) :
    (isMotorId jog.motorId ≠ true ∧ fault = .motorId jog.motorId) ∨
    (isMotorId jog.motorId = true ∧ isSpeed jog.speedPercent ≠ true ∧
      fault = .speed jog.speedPercent) ∨
    (isMotorId jog.motorId = true ∧ isSpeed jog.speedPercent = true ∧
      jog.value.isFinite = false ∧ fault = .distance) := by
  unfold fault? at found
  cases motor : isMotorId jog.motorId with
  | false =>
    simp only [motor, Bool.not_false, if_true, Option.some.injEq] at found
    exact .inl ⟨Bool.false_ne_true, found.symm⟩
  | true =>
    cases speed : isSpeed jog.speedPercent with
    | false =>
      simp only [motor, speed, Bool.not_true, Bool.not_false, Bool.false_eq_true, if_false,
        if_true, Option.some.injEq] at found
      exact .inr (.inl ⟨rfl, Bool.false_ne_true, found.symm⟩)
    | true =>
      cases value : jog.value.isFinite with
      | false =>
        simp only [motor, speed, value, Bool.not_true, Bool.not_false, Bool.false_eq_true,
          if_false, if_true, Option.some.injEq] at found
        exact .inr (.inr ⟨rfl, rfl, rfl, found.symm⟩)
      | true =>
        simp only [motor, speed, value, Bool.not_true, Bool.false_eq_true, if_false,
          reduceCtorEq] at found

theorem Jog.isMotorId_iff {id : UInt8} : isMotorId id = true ↔ 1 ≤ id ∧ id ≤ 3 := by
  simp only [isMotorId, Bool.and_eq_true, decide_eq_true_eq]

theorem Jog.isSpeed_iff {percent : UInt8} : isSpeed percent = true ↔ percent ≤ 100 := by
  simp only [isSpeed, decide_eq_true_eq]

namespace Command

/-- What can be held against sending a command. -/
inductive Objection (command : Command) : CommandFault → Prop
  /-- It is addressed to every board and is of a type that is meant for one. -/
  | broadcast (everyone : command.segment.id = 255)
      (single : command.kind ∈ [.trajectory, .jogMotor, .setZeroOffset]) :
      Objection command .broadcast
  /-- A coefficient of a motor is infinite or not a number. -/
  | coefficient {t : Trajectory} {index : Nat} {motor : Coefficients} {term : Binary32}
      (body : command.body = .trajectory t) (numbered : t.motors.toList[index]? = some motor)
      (listed : term ∈ motor.terms) (wild : term.isFinite = false) :
      Objection command (.nonFiniteCoefficient (index + 1))
  /-- No motor has the number given. -/
  | motorId {jog : Jog} (body : command.body = .jogMotor jog)
      (unknown : ¬ (1 ≤ jog.motorId ∧ jog.motorId ≤ 3)) :
      Objection command (.motorId jog.motorId)
  /-- The speed is more than full speed. -/
  | speed {jog : Jog} (body : command.body = .jogMotor jog) (above : 100 < jog.speedPercent) :
      Objection command (.speed jog.speedPercent)
  /-- The distance is infinite or not a number. -/
  | distance {jog : Jog} (body : command.body = .jogMotor jog)
      (wild : jog.value.isFinite = false) : Objection command .distance

/-- An objection that comes before all others. -/
structure FirstObjection (command : Command) (fault : CommandFault) : Prop where
  holds : command.Objection fault
  least : ∀ other, command.Objection other → fault.rank ≤ other.rank

variable {command : Command} {fault : CommandFault}

/-- No two objections to a command have the same place, so an order of places is
an order of objections. -/
theorem Objection.eq_of_rank {first second : CommandFault} (one : command.Objection first)
    (two : command.Objection second) (same : first.rank = second.rank) : first = second := by
  -- Ranks tell the objections to one body apart; those to different bodies do not meet.
  cases one with
  | broadcast => cases two <;> first | rfl | cases same
  | coefficient body =>
    cases two with
    | broadcast => cases same
    | coefficient => exact congrArg CommandFault.nonFiniteCoefficient same
    | motorId other | speed other | distance other => cases body.symm.trans other
  | motorId body =>
    cases two with
    | coefficient other => cases body.symm.trans other
    | motorId other =>
      cases body.symm.trans other
      rfl
    | _ => cases same
  | speed body =>
    cases two with
    | coefficient other => cases body.symm.trans other
    | speed other =>
      cases body.symm.trans other
      rfl
    | _ => cases same
  | distance body =>
    cases two with
    | coefficient other => cases body.symm.trans other
    | distance => rfl
    | _ => cases same

/-- A command with an objection to it has a fault, though perhaps another one:
the search stops at the first. -/
theorem Objection.fault?_ne_none (objection : command.Objection fault) :
    command.fault? ≠ none := by
  intro faultless
  unfold fault? at faultless
  split at faultless
  · cases faultless
  · rename_i free
    cases objection with
    | broadcast everyone single => exact free (barred_iff.mpr ⟨everyone, single⟩)
    | coefficient body numbered listed wild =>
      rw [body] at faultless
      exact Trajectory.fault?_eq_none.mp faultless
        ⟨_, List.mem_of_getElem? numbered, _, listed, wild⟩
    | motorId body unknown =>
      rw [body] at faultless
      exact unknown (Jog.isMotorId_iff.mp (Jog.fault?_eq_none.mp faultless).1)
    | speed body above =>
      rw [body] at faultless
      exact UInt8.not_lt.mpr (Jog.isSpeed_iff.mp (Jog.fault?_eq_none.mp faultless).2.1) above
    | distance body wild =>
      rw [body] at faultless
      exact Bool.false_ne_true (wild.symm.trans (Jog.fault?_eq_none.mp faultless).2.2)

section

variable (free : ¬ (command.segment.isBroadcast && !command.kind.supportsBroadcast) = true)

include free

/-- Where the address is no objection, the first motor at fault comes first.
Motors have the places of their numbers, and those before it are finite. -/
theorem FirstObjection.of_trajectory {t : Trajectory} (body : command.body = .trajectory t)
    (found : t.fault? = some fault) : command.FirstObjection fault := by
  obtain ⟨index, motor, numbered, wild, rfl, before⟩ := Trajectory.fault?_eq_some found
  obtain ⟨term, listed, wild⟩ := Coefficients.isFinite_eq_false.mp wild
  refine ⟨.coefficient body numbered listed wild, ?_⟩
  intro other objection
  cases objection with
  | broadcast everyone single => exact absurd (barred_iff.mpr ⟨everyone, single⟩) free
  | coefficient body' numbered' listed' wild' =>
    cases body.symm.trans body'
    apply Nat.succ_le_succ
    by_contra sooner
    have finite := before _ (Nat.lt_of_not_le sooner) _ numbered'
    have wild := Coefficients.isFinite_eq_false.mpr ⟨_, listed', wild'⟩
    exact Bool.false_ne_true (wild.symm.trans finite)
  | motorId body' | speed body' | distance body' => cases body.symm.trans body'

/-- What can be held against a jog, and where each of it comes. An objection to
the distance may hold with the others, and so it is only known by its place. -/
theorem Objection.of_jog {jog : Jog} (objection : command.Objection fault)
    (body : command.body = .jogMotor jog) :
    (Jog.isMotorId jog.motorId ≠ true ∧ fault.rank = 4) ∨
      (Jog.isSpeed jog.speedPercent ≠ true ∧ fault.rank = 5) ∨ fault.rank = 6 := by
  cases objection with
  | broadcast everyone single => exact absurd (barred_iff.mpr ⟨everyone, single⟩) free
  | coefficient other => cases body.symm.trans other
  | motorId other unknown =>
    cases body.symm.trans other
    exact .inl ⟨mt Jog.isMotorId_iff.mp unknown, rfl⟩
  | speed other above =>
    cases body.symm.trans other
    exact .inr (.inl ⟨mt Jog.isSpeed_iff.mp (UInt8.not_le.mpr above), rfl⟩)
  | distance => exact .inr (.inr rfl)

/-- Where the address is no objection, a jog's motor comes before its speed before its distance. -/
theorem FirstObjection.of_jog {jog : Jog} (body : command.body = .jogMotor jog)
    (found : jog.fault? = some fault) : command.FirstObjection fault := by
  obtain ⟨unknown, rfl⟩ | ⟨known, above, rfl⟩ | ⟨known, slow, wild, rfl⟩ :=
    Jog.fault?_eq_some found
  · refine ⟨.motorId body (mt Jog.isMotorId_iff.mpr unknown), ?_⟩
    intro other objection
    show 4 ≤ other.rank
    have place := objection.of_jog free body
    omega
  · refine ⟨.speed body (UInt8.not_le.mp (mt Jog.isSpeed_iff.mpr above)), ?_⟩
    intro other objection
    show 5 ≤ other.rank
    obtain ⟨unknown, -⟩ | later := objection.of_jog free body
    · exact absurd known unknown
    · omega
  · refine ⟨.distance body wild, ?_⟩
    intro other objection
    show 6 ≤ other.rank
    obtain ⟨unknown, -⟩ | ⟨above, -⟩ | last := objection.of_jog free body
    · exact absurd known unknown
    · exact absurd slow above
    · exact Nat.le_of_eq last.symm

end

/-- The fault that is found is the first objection. The address is looked at
before the body, and in the body the case split follows the search. -/
theorem firstObjection_of_fault? (found : command.fault? = some fault) :
    command.FirstObjection fault := by
  unfold fault? at found
  split at found
  · rename_i barred
    obtain ⟨everyone, single⟩ := barred_iff.mp barred
    cases found
    exact ⟨.broadcast everyone single, fun _ _ => Nat.zero_le _⟩
  · rename_i free
    cases body : command.body with
    | trajectory t =>
      rw [body] at found
      exact .of_trajectory free body found
    | jogMotor jog =>
      rw [body] at found
      exact .of_jog free body found
    | emergencyStop reason | startHoming mode | setMode mode | setZeroOffset =>
      rw [body] at found
      cases found

/-- A command has a fault when there is an objection to it, and then its fault
is the first one. There is only one first objection, since no two have the same
place. -/
theorem fault?_eq_some_iff : command.fault? = some fault ↔ command.FirstObjection fault := by
  constructor
  · exact firstObjection_of_fault?
  · intro first
    obtain ⟨found, answer⟩ := Option.ne_none_iff_exists'.mp first.holds.fault?_ne_none
    have found_first := firstObjection_of_fault? answer
    have same : found.rank = fault.rank :=
      Nat.le_antisymm (found_first.least _ first.holds) (first.least _ found_first.holds)
    rw [answer, found_first.holds.eq_of_rank first.holds same]

example : fault? ⟨⟨1⟩, .jogMotor ⟨0, .millimeters, .nan, 101⟩⟩ = some (.motorId 0) := by decide

end Command

end MotionLink
